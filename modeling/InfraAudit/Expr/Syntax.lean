import InfraAudit.Expr.Token

/-!
Expressions and how they are read. Conditional choice binds weakest, then `or`, `and`, `not`, comparisons, bit operations,
sums, products, signs, powers, and what follows an operand.
-/

namespace InfraAudit.Expr

inductive UnaryOp where
  | plus | minus | invert | not
  deriving DecidableEq, Repr

inductive BinaryOp where
  | add | sub | mul | div | floorDiv | mod | pow | shiftLeft | shiftRight | bitAnd | bitOr | bitXor
  | matMul
  deriving DecidableEq, Repr

inductive CompareOp where
  | eq | ne | lt | le | gt | ge | isIn | notIn | same | notSame
  deriving DecidableEq, Repr

inductive CollectionKind where
  | list | set | dict | generator
  deriving DecidableEq, Repr

inductive Term where
  | lit (v : Value)
  | name (s : String)
  | list (xs : List Term)
  | tuple (xs : List Term)
  | set (xs : List Term)
  | dict (es : List (Option Term × Term))
  | unary (op : UnaryOp) (a : Term)
  | binary (op : BinaryOp) (a b : Term)
  | compare (a : Term) (rest : List (CompareOp × Term))
  | both (a b : Term)
  | either (a b : Term)
  | choose (test yes no : Term)
  | member (a : Term) (name : String)
  | index (a i : Term)
  | slice (a : Term) (lo hi step : Option Term)
  | call (f : Term) (args : List Term) (named : List (String × Term))
  | spread (a : Term)
  | lambda (params : List (String × Option Term)) (body : Term)
  /-- With keys for a mapping, for each binding that passes the tests. -/
  | collect (kind : CollectionKind) (key : Option Term) (item : Term)
      (clauses : List (List String × Term × List Term))
  deriving Inhabited

def reserved :=
  ["False","None","True","and","as","assert","async","await","break","class","continue",
    "def","del","elif","else","except","finally","for","from","global","if","import","in",
    "is","lambda","nonlocal","not","or","pass","raise","return","try","while","with","yield"]

abbrev Reader := StateT (List Token) Result

def fail {α : Type} : Reader α := bad

variable (s : String)

def isNext (t : Token) : Reader Bool := return (← get).head? == some t

def skipIf (t : Token) : Reader Bool := do
  if !(← isNext t) then return false
  modify List.tail
  return true

def need (t : Token) : Reader Unit := do if !(← skipIf t) then fail

def separator (closing : String) : Reader Unit := do if !(← isNext (.symbol closing)) then need (.symbol ",")

def name : Reader String := do
  let .name n :: r ← get | fail
  if reserved.contains n then fail
  set r
  return n

def joinTexts : String → List Token → Result (Term × List Token)
  | acc,.text s :: r => joinTexts (acc ++ s) r
  | _,.bytes _ :: _ => bad
  | acc,r => .ok (.lit (.str acc),r)

def skipBytes : List Token → Result (Term × List Token)
  | .bytes _ :: r => skipBytes r
  | .text _ :: _ => bad
  | r => .ok (.lit (.thing "bytes"),r)

def operator? {α : Type} (known : List (String × α)) : Reader (Option α) := do
  let .symbol s :: r ← get | return none
  if known.any (·.1 == s) then set r
  return known.lookup s

def levelOps : Nat → List (String × BinaryOp)
  | 0 => [("|",.bitOr)]
  | 1 => [("^",.bitXor)]
  | 2 => [("&",.bitAnd)]
  | 3 => [("<<",.shiftLeft),(">>",.shiftRight)]
  | 4 => [("+",.add),("-",.sub)]
  | _ => [("*",.mul),("/",.div),("//",.floorDiv),("%",.mod),("@",.matMul)]

def compareOp? : Reader (Option CompareOp) := do
  match ← get with
  | .name "in" :: r => set r; return some .isIn
  | .name "not" :: .name "in" :: r => set r; return some .notIn
  | .name "is" :: .name "not" :: r => set r; return some .notSame
  | .name "is" :: r => set r; return some .same
  | _ => operator? [("==",.eq),("!=",.ne),("<=",.le),(">=",.ge),("<",.lt),(">",.gt)]

def readTargets : Nat → Reader (List String)
  | 0 => fail
  | fuel+1 => do
    let n ← name
    if !(← skipIf (.symbol ",")) || (← isNext (.name "in")) then return [n]
    return n :: (← readTargets fuel)

def unlessAt (marks : List String) (read : Reader Term) : Reader (Option Term) := do
  if ← marks.anyM (isNext <| .symbol ·) then return none else return some (← read)

def unspread : Term → Reader Term
  | .spread _ => fail
  | e => return e

mutual

def readExpr : Nat → Reader Term
  | 0 => fail
  | fuel+1 => do
    if ← skipIf (.name "lambda") then return ← readLambda fuel []
    let a ← readOr fuel
    if !(← skipIf (.name "if")) then return a
    let c ← readOr fuel
    need (.name "else")
    return .choose c a (← readExpr fuel)

def readLambda : Nat → List (String × Option Term) → Reader Term
  | 0,_ => fail
  | fuel+1,acc => do
    if ← skipIf (.symbol ":") then return .lambda acc.reverse (← readExpr fuel)
    let n ← name
    let d ← if ← skipIf (.symbol "=") then some <$> readExpr fuel else pure none
    separator ":"
    readLambda fuel ((n,d) :: acc)

def readOr : Nat → Reader Term
  | 0 => fail
  | fuel+1 => do
    let a ← readAnd fuel
    if ← skipIf (.name "or") then return .either a (← readOr fuel) else return a

def readAnd : Nat → Reader Term
  | 0 => fail
  | fuel+1 => do
    let a ← readNot fuel
    if ← skipIf (.name "and") then return .both a (← readAnd fuel) else return a

def readNot : Nat → Reader Term
  | 0 => fail
  | fuel+1 => do
    if ← skipIf (.name "not") then return .unary .not (← readNot fuel)
    readComparisons fuel (← readLevel fuel 0) []

def readComparisons : Nat → Term → List (CompareOp × Term) → Reader Term
  | 0,_,_ => fail
  | fuel+1,a,acc => do
    match ← compareOp? with
    | some op => readComparisons fuel a ((op,← readLevel fuel 0) :: acc)
    | none => return if acc.isEmpty then a else .compare a acc.reverse

def readLevel : Nat → Nat → Reader Term
  | 0,_ => fail
  | fuel+1,level => do
    if level ≥ 6 then readSigned fuel else readLevelRest fuel level (← readLevel fuel (level+1))

def readLevelRest : Nat → Nat → Term → Reader Term
  | 0,_,_ => fail
  | fuel+1,level,a => do
    match ← operator? (levelOps level) with
    | some op => readLevelRest fuel level (.binary op a (← readLevel fuel (level+1)))
    | none => return a

def readSigned : Nat → Reader Term
  | 0 => fail
  | fuel+1 => do
    if let some op ← operator? [("+",.plus),("-",.minus),("~",.invert)] then return .unary op (← readSigned fuel)
    let a ← readTrailers fuel (← readAtom fuel)
    if ← skipIf (.symbol "**") then return .binary .pow a (← readSigned fuel) else return a

def readTrailers : Nat → Term → Reader Term
  | 0,_ => fail
  | fuel+1,a => do
    if ← skipIf (.symbol ".") then readTrailers fuel (.member a (← name))
    else if ← skipIf (.symbol "(") then
      let (args,named) ← readArguments fuel [] []
      readTrailers fuel (.call a args named)
    else if ← skipIf (.symbol "[") then readTrailers fuel (← readSubscript fuel a)
    else return a

def readArguments : Nat → List Term → List (String × Term) → Reader (List Term × List (String × Term))
  | 0,_,_ => fail
  | fuel+1,args,named => do
    if ← skipIf (.symbol ")") then return (args.reverse,named.reverse)
    let (args,named) ← match ← get with
      | .symbol "*" :: r => do
        set r
        pure (.spread (← readExpr fuel) :: args,named)
      | .name n :: .symbol "=" :: r => do
        if reserved.contains n || (named.lookup n).isSome then fail
        set r
        pure (args,(n,← readExpr fuel) :: named)
      | _ => do
        if !named.isEmpty then fail
        let a ← readExpr fuel
        if ← isNext (.name "for") then
          let clauses ← readClauses fuel
          if !args.isEmpty || !(← isNext (.symbol ")")) then fail
          pure ([.collect .generator none a clauses],[])
        else pure (a::args,[])
    separator ")"
    readArguments fuel args named

def readSubscript : Nat → Term → Reader Term
  | 0,_ => fail
  | fuel+1,a => do
    let lo ← unlessAt [":"] (readExpr fuel)
    if ← skipIf (.symbol ":") then
      let hi ← unlessAt [":","]"] (readExpr fuel)
      let step ← if ← skipIf (.symbol ":") then unlessAt ["]"] (readExpr fuel) else pure none
      need (.symbol "]")
      return .slice a lo hi step
    let some e := lo | fail
    if ← skipIf (.symbol ",") then return .index a (.tuple (← readItems fuel "]" [e]))
    need (.symbol "]")
    return .index a e

def readItems : Nat → String → List Term → Reader (List Term)
  | 0,_,_ => fail
  | fuel+1,closing,acc => do
    if ← skipIf (.symbol closing) then return acc.reverse
    let e ← readStarred fuel
    separator closing
    readItems fuel closing (e::acc)

def readStarred : Nat → Reader Term
  | 0 => fail
  | fuel+1 => do
    if ← skipIf (.symbol "*") then return .spread (← readLevel fuel 0)
    readExpr fuel

def readClauses : Nat → Reader (List (List String × Term × List Term))
  | 0 => fail
  | fuel+1 => do
    if !(← skipIf (.name "for")) then return []
    let targets ← readTargets ((← get).length+1)
    need (.name "in")
    let e ← readOr fuel
    let tests ← readTests fuel
    return (targets,e,tests) :: (← readClauses fuel)

def readTests : Nat → Reader (List Term)
  | 0 => fail
  | fuel+1 => do
    if !(← skipIf (.name "if")) then return []
    let e ← readOr fuel
    return e :: (← readTests fuel)

def readAtom : Nat → Reader Term
  | 0 => fail
  | fuel+1 => do
    let t::r ← get | fail
    set r
    match t with
    | .number v => return .lit v
    | .text s => joinTexts s
    | .bytes _ => skipBytes
    | .name "True" => return .lit true
    | .name "False" => return .lit false
    | .name "None" => return .lit .null
    | .name n => if reserved.contains n then fail else return .name n
    | .symbol "..." => return .lit (.thing "ellipsis")
    | .symbol "(" =>
      if ← skipIf (.symbol ")") then return .tuple []
      readRest fuel ")" .generator unspread .tuple (← readStarred fuel)
    | .symbol "[" =>
      if ← skipIf (.symbol "]") then return .list []
      readRest fuel "]" .list (return .list [·]) .list (← readStarred fuel)
    | .symbol "\x7b" => readBraces fuel
    | _ => fail

/-- What follows the first item of a collection. -/
def readRest : Nat → String → CollectionKind → (Term → Reader Term) → (List Term → Term) → Term → Reader Term
  | 0,_,_,_,_,_ => fail
  | fuel+1,closing,kind,single,many,e => do
    if ← isNext (.name "for") then
      let clauses ← readClauses fuel
      need (.symbol closing)
      return .collect kind none e clauses
    if ← skipIf (.symbol ",") then return many (← readItems fuel closing [e])
    need (.symbol closing)
    single e

def readBraces : Nat → Reader Term
  | 0 => fail
  | fuel+1 => do
    if (← isNext (.symbol "\x7d")) || (← isNext (.symbol "**")) then return ← readEntries fuel []
    let e ← readStarred fuel
    if !(← skipIf (.symbol ":")) then return ← readRest fuel "\x7d" .set (return .set [·]) .set e
    let v ← readExpr fuel
    if ← isNext (.name "for") then
      let clauses ← readClauses fuel
      need (.symbol "\x7d")
      return .collect .dict (some e) v clauses
    separator "\x7d"
    readEntries fuel [(some e,v)]

def readEntries : Nat → List (Option Term × Term) → Reader Term
  | 0,_ => fail
  | fuel+1,acc => do
    if ← skipIf (.symbol "\x7d") then return .dict acc.reverse
    let entry ← if ← skipIf (.symbol "**") then do pure (none,← readLevel fuel 0) else do
      let k ← readExpr fuel
      need (.symbol ":")
      pure (some k,← readExpr fuel)
    separator "\x7d"
    readEntries fuel (entry::acc)

end

def readWhole (fuel : Nat) : Reader Term := do
  let e ← readStarred fuel
  if ← skipIf (.symbol ",") then return .tuple (← readItems fuel ")" [e])
  need (.symbol ")")
  unspread e

def read : Result Term := do
  let ts ← tokens s
  let (e,r) ← (readWhole (20*ts.length+40)).run (ts ++ [.symbol ")"])
  if r.isEmpty then return e else bad

def signed (op : UnaryOp) (v : Value) : Result Value :=
  match op, v with
  | .plus,.int n => .ok (.int n)
  | .minus,.int n => .ok (.int (-n))
  | .plus,.float x => .ok (.float x)
  | .minus,.float x => .ok (.float (-x))
  | _,_ => .error .badValue

mutual

def literal : Term → Result Value
  | .lit v => .ok v
  | .list xs => do return .list (← literals xs)
  | .tuple xs => do return .tuple (← literals xs)
  | .set xs => do
    let vs ← literals xs
    if vs.all (·.hashable) then return .ofItems vs else throw .wrongKind
  | .dict es => do return .ofEntries (← literalEntries [] es)
  | .unary op (.lit v) => signed op v
  | _ => .error .badValue

def literals : List Term → Result (List Value)
  | [] => .ok []
  | x::xs => do return (← literal x) :: (← literals xs)

def literalEntries (acc : Entries) : List (Option Term × Term) → Result Entries
  | [] => .ok acc
  | (some k,x) :: r => do
    let key ← literal k
    let v ← literal x
    if !key.hashable then throw .wrongKind
    literalEntries (Value.insertEntry key v acc) r
  | (none,_)::_ => .error .badValue

end

def readLiteral : Result Value := do
  literal (← read (Text.stripLeft (fun c => c == ' ' || c == '\t') s))

end InfraAudit.Expr
