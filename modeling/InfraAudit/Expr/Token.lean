import InfraAudit.Json.Reader

namespace InfraAudit.Expr

open String

inductive Token where
  | number (v : Value)
  | text (s : String)
  | bytes (s : String)
  | name (s : String)
  | symbol (s : String)
  deriving Inhabited, BEq

def bad {α : Type} : Result α := .error .unreadableExpression

structure Quoting where
  quote : Char
  triple : Bool
  raw : Bool
  bytes : Bool

def escapeLetter? : Char → Option Char
  | '\\' => some '\\'
  | '\'' => some '\''
  | '"' => some '"'
  | 'a' => some '\x07'
  | 'b' => some '\x08'
  | 'f' => some '\x0c'
  | 'n' => some '\n'
  | 'r' => some '\r'
  | 't' => some '\t'
  | 'v' => some '\x0b'
  | _ => none

def isOctalDigit (c : Char) : Bool := '0' ≤ c && c ≤ '7'

def hexOf (n : Nat) (r : List Char) : Option Nat :=
  let ds := r.take n
  if ds.length == n then Json.hexNumber? ds else none

/-- What an escape adds, the last character first, and how many characters it takes behind its letter. -/
def escape? (bytes : Bool) (c : Char) (r : List Char) : Option (List Char × Nat) :=
  if c == '\n' then some ([],0)
  else match escapeLetter? c with
    | some d => some ([d],0)
    | none =>
      if isOctalDigit c then
        let ds := c :: (r.take 2).takeWhile isOctalDigit
        some ([Char.ofNat (ds.foldl (fun n d => 8*n+(d.toNat - 48)) 0)],ds.length - 1)
      else if c == 'x' then (hexOf 2 r).map fun n => ([Char.ofNat n],2)
      else if bytes then some ([c,'\\'],0)
      else if c == 'u' then (hexOf 4 r).map fun n => ([Json.charOf n],4)
      else if c == 'U' then (hexOf 8 r).bind fun n => if n < 0x110000 then some ([Json.charOf n],8) else none
      else if c == 'N' then none
      else some ([c,'\\'],0)

def readQuoted (q : Quoting) : Nat → List Char → List Char → Result (String × List Char)
  | 0,_,_ => bad
  | fuel+1,acc,cs =>
    match cs with
    | [] | ['\\'] => bad
    | '\\' :: c :: r =>
      if q.raw then readQuoted q fuel (c :: '\\' :: acc) r
      else match escape? q.bytes c r with
        | some (ds,n) => readQuoted q fuel (ds ++ acc) (r.drop n)
        | none => bad
    | c::r =>
      if c == q.quote then
        if q.triple then
          match r with
          | d::e :: r' =>
            if d == q.quote && e == q.quote then .ok (ofList acc.reverse,r')
            else readQuoted q fuel (c::acc) r
          | _ => readQuoted q fuel (c::acc) r
        else .ok (ofList acc.reverse,r)
      else if c == '\n' && !q.triple then bad
      else if q.bytes && !Text.isAscii c then bad
      else readQuoted q fuel (c::acc) r

variable (cs : List Char) (s : String)

def quotePrefix? : Option (Bool × Bool × Bool) :=
  match Text.lower (ofList cs) with
  | "" => some (false,false,false)
  | "r" => some (true,false,false)
  | "u" => some (false,false,false)
  | "b" => some (false,true,false)
  | "br" | "rb" => some (true,true,false)
  | "f" => some (false,false,true)
  | "fr" | "rf" => some (true,false,true)
  | _ => none

def isQuote (c : Char) : Bool := c == '\'' || c == '"'

def readQuotedToken (lead : List Char) (quote : Char) (r : List Char) : Result (Token × List Char) := do
  match quotePrefix? lead with
  | none => bad
  | some (raw,asBytes,formatted) =>
    let (triple,r) := match r with
      | a::b :: r' => if a == quote && b == quote then (true,r') else (false,r)
      | r => (false,r)
    let (s,r) ← readQuoted ⟨quote,triple,raw,asBytes⟩ (r.length+1) [] r
    if formatted && (s.toList.any fun c => c == '\x7b' || c == '\x7d') then bad
    else return (if asBytes then .bytes s else .text s,r)

def digitRun (isDigit : Char → Bool) : List Char → List Char × List Char
  | [] => ([],[])
  | '_' :: c :: r =>
    if isDigit c then
      let (ds,r) := digitRun isDigit r
      (c::ds,r)
    else ([],'_' :: c :: r)
  | c::r =>
    if isDigit c then
      let (ds,r) := digitRun isDigit r
      (c::ds,r)
    else ([],c::r)

def digitsFrom (isDigit : Char → Bool) (cs : List Char) : List Char × List Char :=
  match cs with
  | '_' :: _ => ([],cs)
  | cs => digitRun isDigit cs

def baseOf? (c : Char) : Option (Nat × (Char → Bool)) :=
  match c.toLower with
  | 'x' => some (16,fun c => (Json.hexValue? c).isSome)
  | 'o' => some (8,isOctalDigit)
  | 'b' => some (2,fun c => c == '0' || c == '1')
  | _ => none

def digitsValue (base : Nat) (ds : List Char) : Nat := ds.foldl (fun n c => base*n+(Json.hexValue? c).getD 0) 0

def wordsAfterNumber := ["and","else","for","if","in","is","not","or"]

def endsNumber (r : List Char) : Bool :=
  match r with
  | c::_ =>
    if Text.isWord c then
      let w := String.ofList (r.takeWhile Text.isWord)
      wordsAfterNumber.any fun k => Text.startsWith w k
    else true
  | [] => true

def readNumber : Result (Token × List Char) :=
  let finish (v : Value) (r : List Char) : Result (Token × List Char) :=
    match r with
    | 'j' :: r' | 'J' :: r' => if endsNumber r' then .ok (.number (.thing "complex"),r') else bad
    | r => if endsNumber r then .ok (.number v,r) else bad
  let decimal (_ : Unit) : Result (Token × List Char) :=
    let (int,r) := digitsFrom Char.isDigit cs
    let (fraction,r,dotted) := match r with
      | '.' :: r' =>
        let (f, r'') := digitsFrom Char.isDigit r'
        (f, r'',true)
      | r => ([],r,false)
    let (sign,exponent,r) := match r with
      | e::r' =>
        if e == 'e' || e == 'E' then
          let (s, r'') := match r' with
            | '+' :: r'' => (['+'], r'')
            | '-' :: r'' => (['-'], r'')
            | r'' => ([], r'')
          let (ds,rest) := digitsFrom Char.isDigit r''
          if ds.isEmpty then ([],[],r) else (s,ds,rest)
        else ([],[],r)
      | [] => ([],[],r)
    if dotted || !exponent.isEmpty then
      let e := if exponent.isEmpty then [] else 'e' :: sign ++ exponent
      match Json.numberOf (if int.isEmpty then ['0'] else int) ('.' :: fraction) e with
      | .int n => finish (.float (Float.ofInt n)) r
      | v => finish v r
    else if int.head? == some '0' && int.any (· != '0') then
      match r with
      | 'j' :: _ => finish (.int 0) r
      | _ => bad
    else finish (.int (Json.natOf int)) r
  match cs with
  | '0' :: b :: r =>
    match baseOf? b with
    | some (base,isDigit) =>
      let r := match r with
        | '_' :: r' => r'
        | r => r
      let (ds,r) := digitsFrom isDigit r
      if ds.isEmpty || !endsNumber r then bad else .ok (.number (.int (digitsValue base ds)),r)
    | none => decimal ()
  | _ => decimal ()

def symbols :=
  ["...","**=","//=",">>=","<<=","**","//",">>","<<","<=",">=","==","!=","->",":=",
    "+=","-=","*=","/=","%=","@=","&=","|=","^=","+","-","*","/","%","@","&","|",
    "^","~","<",">","(",")","[","]","\x7b","\x7d",",",":",".",";","="]

def symbol? : Option String := symbols.find? fun s => s.toList.isPrefixOf cs

def isOpening : Bool := s == "(" || s == "[" || s == "\x7b"

def closingOf : String :=
  if s == "(" then ")" else if s == "[" then "]" else "\x7d"

def isClosing : Bool := s == ")" || s == "]" || s == "\x7d"

def onlyBlankLines : Nat → List Char → Bool
  | 0,_ => false
  | fuel+1,cs =>
    match cs with
    | [] => true
    | '#' :: r => onlyBlankLines fuel (r.dropWhile (· != '\n'))
    | c::r =>
      if c == ' ' || c == '\t' || c == '\n' || c == '\x0c' then onlyBlankLines fuel r else false

def indented : Bool :=
  match cs with
  | c::_ =>
    if c == ' ' || c == '\t' then
      match cs.dropWhile (fun c => c == ' ' || c == '\t' || c == '\x0c') with
      | [] => false
      | d::_ => d != '\n' && d != '#'
    else false
  | [] => false

def scan : Nat → List String → List Token → List Char → Result (List Token)
  | 0,_,_,_ => bad
  | fuel+1,nesting,acc,cs =>
    match cs with
    | [] => if nesting.isEmpty then .ok acc.reverse else bad
    | '\n' :: r =>
      if !nesting.isEmpty then scan fuel nesting acc r
      else if acc.isEmpty then (if indented r then bad else scan fuel nesting acc r)
      else if onlyBlankLines (r.length+1) r then .ok acc.reverse
      else bad
    | '\\' :: '\n' :: r => scan fuel nesting acc r
    | '#' :: r => scan fuel nesting acc (r.dropWhile (· != '\n'))
    | c::r =>
      if c == ' ' || c == '\t' || c == '\x0c' then scan fuel nesting acc r
      else if isQuote c then do
        let (t,r) ← readQuotedToken [] c r
        scan fuel nesting (t::acc) r
      else if c.isDigit || (c == '.' && (r.head?.elim false Char.isDigit)) then do
        let (t,r) ← readNumber cs
        scan fuel nesting (t::acc) r
      else if c == '_' || Text.isAlphabetic c then
        let w := cs.takeWhile Text.isWord
        let r := cs.drop w.length
        match r with
        | q::r' =>
          if isQuote q && (quotePrefix? w).isSome then do
            let (t,r) ← readQuotedToken w q r'
            scan fuel nesting (t::acc) r
          else scan fuel nesting (.name (ofList w) :: acc) r
        | [] => scan fuel nesting (.name (ofList w) :: acc) r
      else
        match symbol? cs with
        | none => bad
        | some s =>
          let r := cs.drop s.length
          if isOpening s then
            if nesting.length < 200 then scan fuel (closingOf s :: nesting) (.symbol s :: acc) r else bad
          else if isClosing s then
            match nesting with
            | e::nesting => if e == s then scan fuel nesting (.symbol s :: acc) r else bad
            | [] => bad
          else scan fuel nesting (.symbol s :: acc) r

def plainNewlines : List Char → List Char
  | '\r' :: '\n' :: r | '\r' :: r => '\n' :: plainNewlines r
  | c::r => c :: plainNewlines r
  | [] => []

def tokens : Result (List Token) :=
  let cs := s.toList.dropWhile fun c => c == ' ' || c == '\t'
  if cs.contains '\x00' then bad
  else
    let cs := plainNewlines cs
    scan (cs.length+1) [] [] cs

end InfraAudit.Expr
