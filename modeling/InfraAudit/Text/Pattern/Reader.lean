import InfraAudit.Text.Pattern
import InfraAudit.Json.Reader

namespace InfraAudit.Text

open Char Json

structure Flags where
  anyCase : Bool := false
  eachLine : Bool := false
  dotAll : Bool := false
  verbose : Bool := false

structure ReadState where
  rest : List Char
  groups : Nat := 0
  names : List (String × Nat) := []
  opened : List Nat := []

abbrev PatternReader := StateT ReadState Result

namespace PatternReader

def fail {α : Type} : PatternReader α := throw .unreadablePattern

def orFail {α : Type} (o : Option α) : PatternReader α := o.elim fail pure

def left : PatternReader (List Char) := return (← get).rest

def goTo (rest : List Char) : PatternReader Unit := modify fun s => {s with rest}

def next : PatternReader Char := do
  let c::r ← left | fail
  goTo r
  return c

def skipIf (mark : String) : PatternReader Bool := do
  let cs ← left
  if !mark.toList.isPrefixOf cs then return false
  goTo (cs.drop mark.toList.length)
  return true

def need (mark : String) : PatternReader Unit := do if !(← skipIf mark) then fail

def upTo (n : Nat) (p : Char → Bool) : PatternReader (List Char) := do
  let cs ← left
  let taken := (cs.take n).takeWhile p
  goTo (cs.drop taken.length)
  return taken

def before (c : Char) : PatternReader (List Char) := do
  let taken ← upTo (← left).length (· != c)
  goTo ((← left).drop 1)
  return taken

def seqOf : List Pat → Pat
  | [] => .empty
  | [p] => p
  | p::r => .seq p (seqOf r)

def isOctal (c : Char) : Bool := '0' ≤ c && c ≤ '7'

variable (cs : List Char) (f : Flags)

def octalOf : Char := ofNat (cs.foldl (fun n c => 8*n+(c.toNat - 48)) 0)

def hexWidths : List (Char × Nat) := [('x',2),('u',4),('U',8)]

def hexChar (n : Nat) : PatternReader Char := do
  let ds ← upTo n fun _ => true
  if ds.length != n then fail
  return ofNat (← orFail (hexNumber? ds))

def letterEscapes : List (Char × Char) :=
  [('a','\x07'),('b','\x08'),('f','\x0c'),('n','\n'),('r','\r'),('t','\t'),('v','\x0b'),('\\','\\')]

def classEscape? (c : Char) : Option ClassItem :=
  ([('d',ClassItem.digit),('w',.word),('s',.blank)].lookup c.toLower).map (· c.isUpper)

def classPart : PatternReader ClassItem := do
  if !(← skipIf "\\") then return .single (← next)
  let c ← next
  if let some i := classEscape? c then return i
  if let some d := letterEscapes.lookup c then return .single d
  if let some n := hexWidths.lookup c then return .single (← hexChar n)
  if isOctal c then return .single (octalOf (c :: (← upTo 2 isOctal)))
  if c.isAlphanum then fail else return .single c

def readClass : Nat → Bool → PatternReader (List ClassItem)
  | 0,_ => fail
  | fuel+1,isFirst => do
    if !isFirst then
      if ← skipIf "]" then return []
    let i ← classPart
    if ['-'].isPrefixOf (← left) && !(['-',']'].isPrefixOf (← left)) then
      need "-"
      let .single a := i | fail
      let .single b ← classPart | fail
      if a ≤ b then return .range a b :: (← readClass fuel false) else fail
    return i :: (← readClass fuel false)

def readCount : Option (Nat × Option Nat × List Char) :=
  let lo := cs.takeWhile isDigit
  let r := cs.dropWhile isDigit
  match r with
  | '\x7d' :: r => if lo.isEmpty then none else some (natOf lo,some (natOf lo),r)
  | ',' :: r =>
    let hi := r.takeWhile isDigit
    match r.dropWhile isDigit with
    | '\x7d' :: r => some (natOf lo,if hi.isEmpty then none else some (natOf hi),r)
    | _ => none
  | _ => none

def readQuantifier : Option (Nat × Option Nat × List Char) :=
  match cs with
  | '*' :: r => some (0,none,r)
  | '+' :: r => some (1,none,r)
  | '?' :: r => some (0,some 1,r)
  | '\x7b' :: r => readCount r
  | _ => none

def readGreed : PatternReader Greed := do
  if ← skipIf "?" then return .lazy
  if ← skipIf "+" then return .possessive
  return .greedy

def flagOf (f : Flags) (on : Bool) : Char → Option Flags
  | 'i' => some {f with anyCase := on}
  | 'm' => some {f with eachLine := on}
  | 's' => some {f with dotAll := on}
  | 'x' => some {f with verbose := on}
  | 'a' | 'u' | 'L' => some f
  | _ => none

def readFlags : Flags → Bool → List Char → Option (Flags × List Char)
  | _,_,[] => none
  | f,on,c :: r =>
    if c == '-' then readFlags f false r
    else match flagOf f on c with
      | some f => readFlags f on r
      | none => some (f,c::r)

def isName : Bool := cs.all isWord && cs.head?.any fun c => c == '_' || isAlphabetic c

def dropVerbose : Nat → List Char → List Char
  | 0,cs => cs
  | fuel+1,cs =>
    match cs with
    | '#' :: r => dropVerbose fuel (r.dropWhile (· != '\n'))
    | c::r => if isBlank c then dropVerbose fuel r else c :: r
    | [] => []

def skipVerbose : PatternReader Unit := do
  let cs ← left
  if f.verbose then goTo (dropVerbose (cs.length+1) cs)

def repeatable : Pat → Bool
  | .lineStart _ | .lineEnd _ | .textStart | .textEnd | .boundary _ => false
  | _ => true

def repeated (p : Pat) : PatternReader Pat := do
  let some (lo,hi,r) := readQuantifier (← left) | return p
  goTo r
  if !repeatable p || hi.any (· < lo) then fail
  let greed ← readGreed
  if (readQuantifier (← left)).isSome then fail
  return .rep p lo hi greed

def again (n : Nat) : PatternReader Pat := do
  let st ← get
  if n ≤ st.groups && !st.opened.contains n then return .again n f.anyCase else fail

def placeEscapes : List (Char × Pat) :=
  [('b',.boundary false),('B',.boundary true),('A',.textStart),('Z',.textEnd)]

def readEscape : PatternReader Pat := do
  let char (c : Char) : PatternReader Pat := return .char c f.anyCase
  let c ← next
  if let some i := classEscape? c then return .cls false [i] false
  if let some p := placeEscapes.lookup c then return p
  if let some n := hexWidths.lookup c then return ← char (← hexChar n)
  if c == '0' then return ← char (octalOf (← upTo 2 isOctal))
  if c.isDigit then
    let cs ← left
    let ds := c :: (cs.take 2).takeWhile isOctal
    if !isOctal c || ds.length != 3 then return ← again f (natOf (c :: (← upTo 1 isDigit)))
    goTo (cs.drop 2)
    return ← char (octalOf ds)
  if let some d := letterEscapes.lookup c then return ← char d
  if c.isAlpha then fail else char c

mutual

def readAlternatives : Nat → Flags → PatternReader Pat
  | 0,_ => fail
  | fuel+1,f => do
    let p := seqOf (← readSequence fuel f)
    if ← skipIf "|" then return .alt p (← readAlternatives fuel f) else return p

def readSequence : Nat → Flags → PatternReader (List Pat)
  | 0,_ => fail
  | fuel+1,f => do
    skipVerbose f
    if (← left).head?.all fun c => c == '|' || c == ')' then return []
    if ← skipIf "(?#" then
      goTo ((← left).dropWhile (· != ')'))
      need ")"
      return ← readSequence fuel f
    let p ← readItem fuel f
    skipVerbose f
    let p ← repeated p
    return p :: (← readSequence fuel f)

def readItem : Nat → Flags → PatternReader Pat
  | 0,_ => fail
  | fuel+1,f => do
    match ← next with
    | '^' => return .lineStart f.eachLine
    | '$' => return .lineEnd f.eachLine
    | '.' => return .any f.dotAll
    | '\\' => readEscape f
    | '[' =>
      let negated ← skipIf "^"
      return .cls negated (← readClass ((← left).length+1) true) f.anyCase
    | '(' => if ← skipIf "?" then readSpecial fuel f else readGroup fuel f none
    | '*' | '+' | '?' => fail
    | c => return .char c f.anyCase

def readGroup : Nat → Flags → Option String → PatternReader Pat
  | 0,_,_ => fail
  | fuel+1,f,name => do
    let st ← get
    let n := st.groups+1
    if name.any fun s => (st.names.lookup s).isSome then fail
    set {st with groups := n, names := st.names ++ (name.map (·,n)).toList, opened := n :: st.opened}
    let p ← readClosed fuel f
    modify fun st => {st with opened := st.opened.erase n}
    return .group n p

def readSpecial : Nat → Flags → PatternReader Pat
  | 0,_ => fail
  | fuel+1,f => do
    if ← skipIf ":" then readClosed fuel f
    else if ← skipIf ">" then return .atomic (← readClosed fuel f)
    else if ← skipIf "=" then return .ahead false (← readClosed fuel f)
    else if ← skipIf "!" then return .ahead true (← readClosed fuel f)
    else if ← skipIf "<=" then readBehind fuel f false
    else if ← skipIf "<!" then readBehind fuel f true
    else if ← skipIf "P<" then
      let name ← before '>'
      if isName name then readGroup fuel f (some (String.ofList name)) else fail
    else if ← skipIf "P=" then
      let name ← before ')'
      again f (← orFail ((← get).names.lookup (String.ofList name)))
    else if ← skipIf "(" then
      let name ← before ')'
      let n ← if !name.isEmpty && name.all isDigit then pure (natOf name)
        else orFail ((← get).names.lookup (String.ofList name))
      match ← readClosed fuel f with
      | .alt a b => return .ifGroup n a b
      | a => return .ifGroup n a .empty
    else
      let some (f,':' :: r) := readFlags f true (← left) | fail
      goTo r
      readClosed fuel f

def readClosed : Nat → Flags → PatternReader Pat
  | 0,_ => fail
  | fuel+1,f => do
    let p ← readAlternatives fuel f
    need ")"
    return p

def readBehind : Nat → Flags → Bool → PatternReader Pat
  | 0,_,_ => fail
  | fuel+1,f,negated => do
    let p ← readClosed fuel f
    return .behind negated (← orFail p.width?) p

end

def leadingFlags : Nat → Flags → List Char → Flags × List Char
  | 0,f,cs => (f,cs)
  | fuel+1,f,cs =>
    match cs with
    | '(' :: '?' :: r =>
      match readFlags f true r with
      | some (f', ')' :: r') => leadingFlags fuel f' r'
      | _ => (f,cs)
    | _ => (f,cs)

end PatternReader

open PatternReader

def Pattern.read (s : String) (flags : Flags := {}) : Result Pattern := do
  let (f,rest) := leadingFlags (s.toList.length+1) flags s.toList
  let (p,st) ← (readAlternatives (6*rest.length+12) f).run {rest}
  if st.rest.isEmpty then return ⟨p,st.groups,st.names⟩ else throw .unreadablePattern

def Pattern.of (s : String) (flags : Flags := {}) : Pattern :=
  (read s flags).toOption.getD ⟨.cls false [] false,0,[]⟩

end InfraAudit.Text
