import InfraAudit.Json.Reader

/-!
Tokens of YAML documents. What may turn out to be a key is remembered until a colon on the same line confirms it. Outside of
brackets the indentation opens and closes collections.
-/

namespace InfraAudit.Yaml

structure Mark where
  line : Nat := 0
  column : Nat := 0
  index : Nat := 0

inductive TokenKind where
  | streamEnd
  | directive
  | documentStart
  | documentEnd
  | blockSequenceStart
  | blockMappingStart
  | blockEnd
  | flowSequenceStart
  | flowSequenceEnd
  | flowMappingStart
  | flowMappingEnd
  | blockEntry
  | flowEntry
  | key
  | value
  | alias (name : String)
  | anchor (name : String)
  | tag (name : String)
  | scalar (text : String) (plain : Bool)
  deriving DecidableEq

structure Token where
  kind : TokenKind
  start : Mark
  stop : Mark

structure PendingKey where
  flow : Int
  position : Nat
  required : Bool
  mark : Mark

structure ScanState where
  chars : Array Char
  tabs : Bool := false
  mark : Mark := {}
  flow : Int := 0
  tokens : Array Token := #[]
  indent : Int := -1
  indents : List Int := []
  keyAllowed : Bool := true
  pending : List PendingKey := []

abbrev Scanner := StateT ScanState Result

namespace Scanner

def fail {α : Type} : Scanner α := throw .unreadableToken

def peek (n : Nat := 0) : Scanner Char := do
  let s ← get
  return s.chars.getD (s.mark.index+n) '\x00'

def here : Scanner Mark := return (← get).mark

variable (kind : TokenKind) (c : Char)

def isBreak : Bool := "\n\r\x85\u2028\u2029".toList.contains c

def isBreakOrEnd : Bool := c == '\x00' || isBreak c

def isSpace : Bool := c == ' ' || c == '\t'

def isSpaceOrEnd : Bool := isSpace c || isBreakOrEnd c

def step : Scanner Unit := do
  let s ← get
  let m := s.mark
  let c := s.chars.getD m.index '\x00'
  let next := s.chars.getD (m.index+1) '\x00'
  let mark := if isBreak c && !(c == '\r' && next == '\n') then ⟨m.line+1,0,m.index+1⟩
    else if c == '\uFEFF' then ⟨m.line,m.column,m.index+1⟩
    else ⟨m.line,m.column+1,m.index+1⟩
  set {s with mark}

def steps : Nat → Scanner Unit
  | 0 => pure ()
  | n+1 => do
    step
    steps n

def left : Scanner Nat := do
  let s ← get
  return s.chars.size - s.mark.index

def iterate {α : Type} (f : α → Scanner (Option α)) : Nat → α → Scanner α
  | 0,a => return a
  | n+1,a => do
    let some b ← f a | return a
    iterate f n b

/-- Every round but the last goes on by a character or more. -/
def loop {α : Type} (f : α → Scanner (Option α)) (a : α) : Scanner α := do iterate f ((← left)+1) a

def takeWhile (p : Char → Bool) : Scanner (List Char) := do
  let taken ← loop (fun acc => do
    let c ← peek
    if !p c then return none
    step
    return some (c::acc)) []
  return taken.reverse

def skipWhile (p : Char → Bool) : Scanner Unit := do let _ ← takeWhile p

def lineBreak : Scanner (List Char) := do
  let c ← peek
  if !isBreak c then return []
  steps (if c == '\r' && (← peek 1) == '\n' then 2 else 1)
  return [if c == '\u2028' || c == '\u2029' then c else '\n']

def emit (start stop : Mark) : Scanner Unit := modify fun s => {s with tokens := s.tokens.push ⟨kind,start,stop⟩}

def emitHere : Scanner Unit := do
  let m ← here
  emit kind m m

def emitOver (n : Nat) : Scanner Unit := do
  let start ← here
  steps n
  emit kind start (← here)

def unwind (column : Int) : Scanner Unit := do
  iterate (fun _ => do
    let s ← get
    if s.flow != 0 || s.indent ≤ column then return none
    set {s with indent := s.indents.headD (-1), indents := s.indents.tail}
    emitHere .blockEnd
    return some ()) ((← get).indents.length+1) ()

def addIndent (column : Int) : Scanner Bool := do
  let s ← get
  if s.indent < column then
    set {s with indent := column, indents := s.indent :: s.indents}
    return true
  return false

def allowKey (b : Bool) : Scanner Unit := modify fun s => {s with keyAllowed := b}

def dropStale : Scanner Unit := do
  let s ← get
  let (pending,stale) := s.pending.partition fun k => k.mark.line == s.mark.line && s.mark.index - k.mark.index ≤ 1024
  if stale.any (·.required) then fail
  set {s with pending}

def dropPending : Scanner Unit := do
  let s ← get
  if s.pending.any fun k => k.flow == s.flow && k.required then fail
  set {s with pending := s.pending.filter (·.flow != s.flow)}

def savePending : Scanner Unit := do
  let s ← get
  if s.keyAllowed then
    let required := s.flow == 0 && s.indent == Int.ofNat s.mark.column
    dropPending
    modify fun t => {t with pending := t.pending ++ [⟨t.flow,t.tokens.size,required,s.mark⟩]}

def startScalar : Scanner Mark := do
  savePending
  allowKey false
  here

def toNext : Scanner Unit := do
  if (← get).mark.index == 0 && (← peek) == '\uFEFF' then step
  loop (fun _ => do
    let s ← get
    let tabs := s.tabs && (s.flow != 0 || !s.keyAllowed)
    skipWhile fun c => c == ' ' || (tabs && c == '\t')
    if (← peek) == '#' then skipWhile (!isBreakOrEnd ·)
    if (← lineBreak).isEmpty then return none
    if s.flow == 0 then allowKey true
    return some ()) ()

def isBoundary : Scanner Bool := do
  return (← peek) == c && (← peek 1) == c && (← peek 2) == c && isSpaceOrEnd (← peek 3)

def atBoundary : Scanner Bool := do
  if ← isBoundary '-' then return true
  isBoundary '.'

def folded (first rest : List Char) : List Char := if first != ['\n'] then first else if rest.isEmpty then [' '] else []

def plainSpaces : Scanner (List Char) := do
  let spaces ← takeWhile (· == ' ')
  if !isBreak (← peek) then return spaces
  let first ← lineBreak
  allowKey true
  let (breaks,ended) ← loop (fun (breaks,ended) => do
    if ended then return none
    skipWhile (· == ' ')
    if !isBreak (← peek) then return none
    return some (breaks ++ (← lineBreak),← atBoundary)) ([],← atBoundary)
  return if ended then [] else folded first breaks ++ breaks

def plainGoesOn (n : Nat) : Scanner Bool := do
  let inFlow := (← get).flow != 0
  let c ← peek n
  if isSpaceOrEnd c then return false
  if c == ':' then
    let next ← peek (n+1)
    if isSpaceOrEnd next || (inFlow && ",[]\x7b\x7d".toList.contains next) then return false
  return !(inFlow && ",?[]\x7b\x7d".toList.contains c)

def takeChars (n : Nat) : Scanner (List Char) := do
  let s ← get
  steps n
  return (s.chars.extract s.mark.index (s.mark.index+n)).toList

def plain : Scanner Unit := do
  let start ← startScalar
  let (text,_,stop) ← loop (fun (text,spaces,_) => do
    let s ← get
    let n ← loop (fun n => do return if ← plainGoesOn n then some (n+1) else none) 0
    if n == 0 || (← peek) == '#' then return none
    if !text.isEmpty && (spaces.isEmpty || (s.flow == 0 && Int.ofNat s.mark.column ≤ s.indent)) then return none
    allowKey false
    let text := text ++ spaces ++ (← takeChars n)
    let stop ← here
    return some (text,← plainSpaces,stop)) ([],[],start)
  emit (.scalar (String.ofList text) true) start stop

def escapes : List (Char × Char) :=
  [('0','\x00'),('a','\x07'),('b','\x08'),('t','\t'),('\t','\t'),('n','\n'),('v','\x0b'),
    ('f','\x0c'),('r','\r'),('e','\x1b'),(' ',' '),('"','"'),('\\','\\'),('/','/'),
    ('N','\x85'),('_','\xa0'),('L','\u2028'),('P','\u2029')]

def pushUnit (n : Nat) : List Nat → List Nat
  | h::r => if Json.isHighSurrogate h && Json.isLowSurrogate n then Json.joinSurrogates h n :: r else n :: h :: r
  | [] => [n]

def quotedBreaks : Scanner (List Char) :=
  loop (fun breaks => do
    if ← atBoundary then fail
    skipWhile isSpace
    if isBreak (← peek) then return some (breaks ++ (← lineBreak)) else return none) []

def escape (acc : List Nat) : Scanner (List Nat) := do
  let c ← peek
  if isBreak c then
    let _ ← lineBreak
    return pushAll (← quotedBreaks) acc
  step
  if let some d := escapes.lookup c then return d.toNat :: acc
  let some n := [('x',2),('u',4),('U',8)].lookup c | fail
  let digits ← takeChars n
  let some k := Json.hexNumber? digits | fail
  if digits.length < n then fail
  return pushUnit k acc
where
  pushAll (cs : List Char) (acc : List Nat) : List Nat := (cs.map Char.toNat).reverse ++ acc

def quotedSpaces : Scanner (List Char) := do
  let spaces ← takeWhile isSpace
  let c ← peek
  if c == '\x00' then fail
  if !isBreak c then return spaces
  let first ← lineBreak
  let breaks ← quotedBreaks
  return folded first breaks ++ breaks

def quoted (double : Bool) : Scanner Unit := do
  let start ← startScalar
  step
  let units ← loop (fun acc => do
    let c ← peek
    if !double && c == '\'' && (← peek 1) == '\'' then
      steps 2
      return some (c.toNat :: acc)
    if c == (if double then '"' else '\'') then return none
    if isSpaceOrEnd c then return some (escape.pushAll (← quotedSpaces) acc)
    step
    if double && c == '\\' then return some (← escape acc) else return some (c.toNat :: acc)) []
  step
  emit (.scalar (String.ofList (units.reverse.map Char.ofNat)) false) start (← here)

def blockSign : Scanner (Option Bool) := do
  let c ← peek
  if c != '+' && c != '-' then return none
  step
  return some (c == '+')

def blockWidth : Scanner (Option Nat) := do
  let c ← peek
  if c == '0' then fail
  if !c.isDigit then return none
  step
  return some (c.toNat - 48)

def blockBreaks (indent : Int) : Scanner (List Char × Mark) := do
  loop (fun (breaks,_) => do
    loop (fun _ => do
      if Int.ofNat (← here).column ≥ indent || (← peek) != ' ' then return none
      step
      return some ()) ()
    if isBreak (← peek) then return some (breaks ++ (← lineBreak),← here) else return none) ([],← here)

def blockScalar (folding : Bool) : Scanner Unit := do
  allowKey true
  dropPending
  let start ← here
  step
  let sign ← blockSign
  let width ← blockWidth
  let keep ← if sign.isSome then pure sign else blockSign
  if !isSpaceOrEnd (← peek) then fail
  skipWhile (· == ' ')
  if (← peek) == '#' then skipWhile (!isBreakOrEnd ·)
  if !isBreakOrEnd (← peek) then fail
  let _ ← lineBreak
  let least := max ((← get).indent+1) 1
  let (indent,breaks,stop) ← match width with
    | none => do
      loop (fun (deepest,breaks,stop) => do
        if isBreak (← peek) then return some (deepest,breaks ++ (← lineBreak),← here)
        if (← peek) != ' ' then return none
        step
        return some (max deepest (Int.ofNat (← here).column),breaks,stop)) (least,[],← here)
    | some n => pure (least+n - 1,← blockBreaks (least+n - 1))
  let (text,breaks,last,_,stop) ← loop (fun (text,breaks,last,flush,_) => do
    let c ← peek
    if Int.ofNat (← here).column != indent || c == '\x00' then return none
    let joint := if folding && flush && !isSpace c then folded last breaks else last
    let line ← takeWhile (!isBreakOrEnd ·)
    let last ← lineBreak
    let (next,stop) ← blockBreaks indent
    return some (text ++ joint ++ breaks ++ line,next,last,!isSpace c,stop)) ([],breaks,[],false,stop)
  let text := if keep == some false then text else text ++ last
  let text := if keep == some true then text ++ breaks else text
  emit (.scalar (String.ofList text) false) start stop

def isAnchorChar : Bool := ('0' ≤ c && c ≤ '9') || ('A' ≤ c && c ≤ 'Z') || ('a' ≤ c && c ≤ 'z') || c == '-' || c == '_'

def anchorOr (kind : String → TokenKind) : Scanner Unit := do
  let start ← startScalar
  step
  let name ← takeWhile isAnchorChar
  if name.isEmpty then fail
  let next ← peek
  if !(isSpaceOrEnd next || "?:,]\x7d%@\x60".toList.contains next) then fail
  emit (kind (String.ofList name)) start (← here)

def tagName : Scanner Unit := do
  let start ← startScalar
  let name ← takeWhile fun c => !isSpaceOrEnd c && !(",[]\x7b\x7d".toList.contains c)
  if !isSpaceOrEnd (← peek) && !((← get).flow != 0 && (← peek) == ',') then fail
  emit (.tag (String.ofList name)) start (← here)

def closeBlocks : Scanner Unit := do
  unwind (-1)
  dropPending
  allowKey false

def directive : Scanner Unit := do
  closeBlocks
  let start ← here
  skipWhile (!isBreakOrEnd ·)
  emit .directive start (← here)

def boundary : Scanner Unit := do
  closeBlocks
  emitOver kind 3

def indicator (allow : Bool) : Scanner Unit := do
  allowKey allow
  dropPending
  emitOver kind 1

def openFlow : Scanner Unit := do
  savePending
  modify fun s => {s with flow := s.flow+1, keyAllowed := true}
  emitOver kind 1

def closeFlow : Scanner Unit := do
  dropPending
  modify fun s => {s with flow := s.flow - 1, keyAllowed := false}
  emitOver kind 1

def openBlock : Scanner Unit := do
  let s ← get
  if s.flow == 0 then
    if !s.keyAllowed then fail
    if ← addIndent s.mark.column then emitHere kind

def insertAt (position : Nat) (t : Token) : Scanner Unit :=
  modify fun s => { s with tokens := (s.tokens.extract 0 position).push t ++ s.tokens.extract position s.tokens.size }

def valueMark : Scanner Unit := do
  let s ← get
  let key? := s.pending.find? (·.flow == s.flow)
  match key? with
  | some k =>
    set {s with pending := s.pending.filter (·.flow != s.flow)}
    insertAt k.position ⟨.key,k.mark,k.mark⟩
    if s.flow == 0 then
      if ← addIndent k.mark.column then insertAt k.position ⟨.blockMappingStart,k.mark,k.mark⟩
  | none => openBlock .blockMappingStart
  indicator .value (s.flow == 0 && key?.isNone)

def plainMayStart : Scanner Bool := do
  let c ← peek
  if !isSpaceOrEnd c && !("-?:,[]\x7b\x7d#&*!|>'\"%@\x60".toList.contains c) then return true
  let next ← peek 1
  return !isSpaceOrEnd next && (c == '-' || ((← get).flow == 0 && (c == '?' || c == ':')))

def next : Scanner Bool := do
  toNext
  dropStale
  let s ← get
  unwind s.mark.column
  let c ← peek
  let spaceAfter := isSpaceOrEnd (← peek 1)
  let inFlow := s.flow != 0
  if c == '\x00' then
    closeBlocks
    emitHere .streamEnd
    return false
  if c == '%' && s.mark.column == 0 then directive
  else if s.mark.column == 0 && (← isBoundary '-') then boundary .documentStart
  else if s.mark.column == 0 && (← isBoundary '.') then boundary .documentEnd
  else if c == '-' && spaceAfter then
    openBlock .blockSequenceStart
    indicator .blockEntry true
  else if c == '?' && (inFlow || spaceAfter) then
    openBlock .blockMappingStart
    indicator .key !inFlow
  else if c == ':' && (inFlow || spaceAfter) then valueMark
  else if (c == '|' || c == '>') && !inFlow then blockScalar (c == '>')
  else match c with
    | '[' => openFlow .flowSequenceStart
    | '\x7b' => openFlow .flowMappingStart
    | ']' => closeFlow .flowSequenceEnd
    | '\x7d' => closeFlow .flowMappingEnd
    | ',' => indicator .flowEntry true
    | '*' => anchorOr .alias
    | '&' => anchorOr .anchor
    | '!' => tagName
    | '\'' | '"' => quoted (c == '"')
    | _ => if ← plainMayStart then plain else fail
  return true

end Scanner

def isPrintable (c : Char) : Bool :=
  c == '\t' || c == '\n' || c == '\r' || (' ' ≤ c && c ≤ '~') || c == '\x85' || ('\xa0' ≤ c && c ≤ '\uFFFD') ||
    c.toNat ≥ 0x10000

/-- As far as they can be read, and what stopped the reading. What could still turn out to be a key
is not given out before that is known. -/
structure Tokens where
  list : List Token
  fault : Option Fault := none

def scanFuel : Nat → ScanState → Tokens
  | 0,s => ⟨s.tokens.toList,none⟩
  | fuel+1,s =>
    match Scanner.next.run s with
    | .ok (true,s) => scanFuel fuel s
    | .ok (false,s) => ⟨s.tokens.toList,none⟩
    | .error f =>
      let known := s.pending.foldl (fun n k => min n k.position) s.tokens.size
      ⟨s.tokens.toList.take known,some f⟩

def tokens (text : String) (tabs : Bool) : Tokens :=
  let chars := text.toList.toArray
  if chars.all isPrintable then scanFuel (chars.size+1) {chars, tabs} else ⟨[],some .unreadableYaml⟩

end InfraAudit.Yaml
