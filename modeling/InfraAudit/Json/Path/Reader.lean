import InfraAudit.Json.Path

namespace InfraAudit.Json

open String

inductive PathToken where
  | doubleDot
  | number (n : Int)
  | float (x : Float)
  | id (name : String)
  | bool (b : Bool)
  | named (name : String)
  | having
  | compare (c : Comparison)
  | order
  | mark (c : Char)

namespace PathToken

def isNameStart (c : Char) : Bool := c.isAlpha || c == '_'

def isNameRest (c : Char) : Bool := c.isAlphanum || c == '_' || c == '@' || c == '-'

def quoted (q : Char) : List Char → Option (String × List Char)
  | [] => none
  | '\\' :: c :: r => (quoted q r).map fun (s,r) => (singleton c ++ s,r)
  | c::r => if c == q then some ("",r) else (quoted q r).map fun (s,r) => (singleton c ++ s,r)

def comparison? : List Char → Option (Comparison × List Char)
  | '=' :: '~' :: r => some (.found,r)
  | '=' :: '=' :: r | '=' :: r => some (.eq,r)
  | '<' :: '=' :: r => some (.le,r)
  | '>' :: '=' :: r => some (.ge,r)
  | '!' :: '=' :: r => some (.ne,r)
  | '<' :: r => some (.lt,r)
  | '>' :: r => some (.gt,r)
  | _ => none

variable (cs : List Char)

def order? : Option (List Char) :=
  let r := match cs with
    | ',' :: r | r => r
  match r.dropWhile fun c => c == ' ' || c == '\t' || c == '\n' with
  | '/' :: r | '\\' :: r => some r
  | _ => none

def name? : Option (String × List Char) :=
  let (lead,r) := match cs with
    | '@' :: r => (['@'],r)
    | r => ([],r)
  match r with
  | c::r => if isNameStart c then
      some (ofList (lead ++ c :: r.takeWhile isNameRest),r.dropWhile isNameRest)
    else none
  | [] => none

def digits : List Char × List Char := (cs.takeWhile Char.isDigit,cs.dropWhile Char.isDigit)

def number? : Option (PathToken × List Char) :=
  let (sign,r) := match cs with
    | '-' :: r => (['-'],r)
    | r => ([],r)
  match digits r with
  | ([],_) => none
  | (ds,r) =>
    let whole := ((ofList (sign ++ ds)).toInt?).getD 0
    match r with
    | '.' :: r' => match digits r' with
      | ([],_) => some (.number whole,r)
      | (fs,r'') => some (.float ((Decimal.float? (ofList (sign ++ ds ++ '.' :: fs))).getD 0), r'')
    | r => some (.number whole,r)

def marks : List Char := "*.[]()$,:|&~?@+-".toList

def next? : Option (PathToken × List Char) :=
  match cs with
  | 't' :: 'r' :: 'u' :: 'e' :: r => some (.bool true,r)
  | 'f' :: 'a' :: 'l' :: 's' :: 'e' :: r => some (.bool false,r)
  | '\'' :: r => (quoted '\'' r).map fun (s,r) => (.id s,r)
  | '"' :: r => (quoted '"' r).map fun (s,r) => (.id s,r)
  | '\x60' :: r => (quoted '\x60' r).map fun (s,r) => (.named s,r)
  | cs =>
    ((order? cs).map fun r => (PathToken.order,r)) <|>
    ((name? cs).map fun (s,r) => (if s == "where" then .having else .id s,r)) <|>
    number? cs <|>
    ((comparison? cs).map fun (c,r) => (.compare c,r)) <|>
    match cs with
    | '.' :: '.' :: r => some (.doubleDot,r)
    | c::r => if marks.contains c then some (.mark c,r) else none
    | [] => none

def scan : Nat → List Char → Result (List PathToken)
  | 0,_ | _+1,[] => .ok []
  | n+1,c :: r =>
    if c == ' ' || c == '\t' || c == '\n' then scan n r
    else match next? (c::r) with
      | some (t,r) => do return t :: (← scan n r)
      | none => .error (.failure "")

end PathToken

abbrev PathReader := StateT (List PathToken) Result

namespace PathReader

def bad {α : Type} : PathReader α := throw (.failure "")

def peek : PathReader (Option PathToken) := do return (← get).head?

def skip : PathReader Unit := modify List.tail

def take : PathReader PathToken := do
  let some t ← peek | bad
  skip
  return t

def isAt (c : Char) : PathReader Bool := do
  let some (.mark d) ← peek | return false
  return c == d

def skipIf (c : Char) : PathReader Bool := do
  if !(← isAt c) then return false
  skip
  return true

def expect (c : Char) : PathReader Unit := do if !(← skipIf c) then bad

def operator? : Option PathToken → Option (Nat × (Path → Path → Path))
  | some .doubleDot => some (1,.beneath)
  | some (.mark '.') => some (2,.child)
  | some (.mark '|') => some (3,.either)
  | some (.mark '&') => some (4,.both)
  | some .having => some (5,.having)
  | _ => none

def names : Nat → List String → PathReader (List String)
  | 0,ns => return ns
  | n+1,ns => do
    if !(← skipIf ',') then return ns
    let .id s ← take | bad
    names n (ns ++ [s])

def number? : PathReader (Option Int) := do
  let some (.number k) ← peek | return none
  skip
  return some k

def inBrackets (n : Nat) : PathReader Path := do
  if ← skipIf '*' then return .slice none none none
  let start ← number?
  if ← skipIf ':' then
    let stop ← number?
    if ← skipIf ':' then return .slice start stop (← number?) else return .slice start stop none
  if let some k := start then return .index k
  let .id s ← take | bad
  return .fields (← names n [s])

def Tests.append : Tests → Tests → Tests
  | .nil,t => t
  | .cons p c r,t => .cons p c (Tests.append r t)

mutual

def primary : Nat → PathReader Path
  | 0 => bad
  | n+1 => do
    match ← take with
    | .mark '$' => return .root
    | .mark '@' => return .this
    | .mark '*' => return .fields ["*"]
    | .named "this" => return .this
    | .named "parent" => return .parent
    | .id s => return .fields (← names n [s])
    | .mark '[' => do
      let p ← inBrackets n
      expect ']'
      return p
    | .mark '(' => do
      let p ← query n
      expect ')'
      return p
    | _ => bad

def operand : Nat → Nat → PathReader Path
  | 0,_ => bad
  | n+1,level => do operandRest n level (← primary n)

def operandRest : Nat → Nat → Path → PathReader Path
  | 0,_,_ => bad
  | n+1,level,left => do
    let some (l,make) := operator? (← peek) | return left
    if l ≤ level then return left
    skip
    operandRest n level (make left (← operand n l))

def query : Nat → PathReader Path
  | 0 => bad
  | n+1 => do queryRest n (← primary n)

def queryRest : Nat → Path → PathReader Path
  | 0,_ => bad
  | n+1,left => do
    let left ← operandRest n 0 left
    if !(← skipIf '[') then return left
    let right ← if ← skipIf '?' then .filter <$> tests n else inBrackets n
    expect ']'
    queryRest n (.child left right)

def tests : Nat → PathReader Tests
  | 0 => bad
  | n+1 => do
    let first ← if ← skipIf '(' then do
        let ts ← tests n
        expect ')'
        pure ts
      else test n
    if ← skipIf '&' then return Tests.append first (← tests n) else return first

def test : Nat → PathReader Tests
  | 0 => bad
  | n+1 => do
    let p ← query n
    let some (.compare c) ← peek | return .cons p none .nil
    skip
    let bound : Value ← match ← take with
      | .id s => pure (.str s)
      | .float x => pure (.float x)
      | .number k => pure (.int k)
      | .bool b => pure (.bool b)
      | _ => bad
    return .cons p (some (c,bound)) .nil

end

end PathReader

def Path.read (s : String) : Result Path := do
  let tokens ← PathToken.scan (s.length+1) s.toList
  let (p,rest) ← (PathReader.query (3*tokens.length+4)).run tokens
  if rest.isEmpty then return p else throw (.failure "")

end InfraAudit.Json
