import InfraAudit.Decimal.Reading
import InfraAudit.Text.Pattern.Reader
import InfraAudit.Yaml.Token

namespace InfraAudit.Yaml

open Text Text.Pattern

inductive Node where
  | scalar (tag : Option String) (text : String) (plain : Bool) (start stop : Mark)
  | sequence (tag : Option String) (items : List Node) (start stop : Mark)
  | mapping (tag : Option String) (pairs : List (Node × Node)) (start stop : Mark)

def Node.start : Node → Mark
  | .scalar _ _ _ m _ | .sequence _ _ m _ | .mapping _ _ m _ => m

def Node.stop : Node → Mark
  | .scalar _ _ _ _ m | .sequence _ _ _ m | .mapping _ _ _ m => m

def Node.empty (m : Mark) : Node := .scalar none "" true m m

structure TreeState where
  rest : List Token
  fault : Option Fault := none
  names : List (String × Node) := []

abbrev Tree := StateT TreeState Result

namespace Tree

def fail {α : Type} : Tree α := throw .unreadableYaml

def peek : Tree Token := do
  let s ← get
  match s.rest, s.fault with
  | t::_,_ => return t
  | [],some f => throw f
  | [],none => return ⟨.streamEnd,{},{}⟩

def skip : Tree Unit := modify fun s => {s with rest := s.rest.tail}

def isAt (kinds : List TokenKind) : Tree Bool := return kinds.contains (← peek).kind

def anchor? : Tree (Option String) := do
  let .anchor name := (← peek).kind | return none
  skip
  return some name

def tag? : Tree (Option String) := do
  let .tag name := (← peek).kind | return none
  skip
  return some name

def bindName (name : Option String) (node : Node) : Tree Node := do
  let some n := name | return node
  if ((← get).names.lookup n).isSome then fail
  modify fun s => {s with names := (n,node) :: s.names}
  return node

def unlessAt (kinds : List TokenKind) (m : Mark) (node : Tree Node) : Tree Node := do
  if ← isAt kinds then return .empty m else node

def pairAfter (key : Token) (kinds : List TokenKind) (node : Tree Node) : Tree (Node × Node) := do
  skip
  let k ← unlessAt (.value::kinds) key.stop node
  let v ← peek
  if v.kind != .value then return (k,.empty v.start)
  skip
  return (k,← unlessAt kinds v.stop node)

mutual

/-- Outside of brackets it may be a block, and under a key a sequence without indentation. -/
def node : Nat → Bool → Bool → Tree Node
  | 0,_,_ => fail
  | fuel+1,block,indentless => do
    let start := (← peek).start
    if let .alias name := (← peek).kind then
      skip
      let some n := (← get).names.lookup name | fail
      return n
    let name ← anchor?
    let tag ← tag?
    let name ← if name.isSome then pure name else anchor?
    let t ← peek
    if indentless && t.kind == .blockEntry then
      let (items,stop) ← entries fuel true
      bindName name (.sequence tag items start stop)
    else match t.kind with
      | .scalar text plain =>
        skip
        bindName name (.scalar tag text plain start t.stop)
      | .flowSequenceStart =>
        skip
        let (parts,stop) ← flowParts .flowSequenceEnd fuel true
        bindName name (.sequence tag (parts.map Prod.fst) start stop)
      | .flowMappingStart =>
        skip
        let (pairs,stop) ← flowParts .flowMappingEnd fuel true
        bindName name (.mapping tag pairs start stop)
      | .blockSequenceStart =>
        if !block then fail
        skip
        let (items,stop) ← entries fuel false
        bindName name (.sequence tag items start stop)
      | .blockMappingStart =>
        if !block then fail
        skip
        let (pairs,stop) ← blockPairs fuel
        bindName name (.mapping tag pairs start stop)
      | _ => if name.isSome || tag.isSome then bindName name (.scalar tag "" true start t.start) else fail

def entries : Nat → Bool → Tree (List Node × Mark)
  | 0,_ => fail
  | fuel+1,indentless => do
    let t ← peek
    if t.kind == .blockEntry then
      skip
      let ends := [.blockEntry,.blockEnd] ++ if indentless then [.key,.value] else []
      let item ← unlessAt ends t.stop (node fuel true false)
      let (items,stop) ← entries fuel indentless
      return (item::items,stop)
    if indentless then return ([],t.start)
    if t.kind != .blockEnd then fail
    skip
    return ([],t.stop)

def blockPairs : Nat → Tree (List (Node × Node) × Mark)
  | 0 => fail
  | fuel+1 => do
    let t ← peek
    if t.kind == .key then
      let pair ← pairAfter t [.key,.value,.blockEnd] (node fuel true true)
      let (pairs,stop) ← blockPairs fuel
      return (pair::pairs,stop)
    if t.kind != .blockEnd then fail
    skip
    return ([],t.stop)

/-- What stands between brackets or braces. Between brackets a pair is a mapping of its own. -/
def flowParts : TokenKind → Nat → Bool → Tree (List (Node × Node) × Mark)
  | _,0,_ => fail
  | last,fuel+1,first => do
    if !first && (← peek).kind != last then
      if (← peek).kind != .flowEntry then fail
      skip
    let t ← peek
    if t.kind == last then
      skip
      return ([],t.stop)
    let part ← if t.kind == .key then do
        let (key,value) ← pairAfter t [.flowEntry,last] (node fuel false false)
        let stop := (← peek).start
        pure (if last == .flowMappingEnd then key else .mapping none [(key,value)] t.start stop,value)
      else do pure (← node fuel false false,.empty (← peek).start)
    let (parts,stop) ← flowParts last fuel false
    return (part::parts,stop)

end

def skipAll (kind : TokenKind) : Tree Unit := modify fun s => {s with rest := s.rest.dropWhile (·.kind == kind)}

def documents : Nat → Bool → Tree (List Node)
  | 0,_ => return []
  | fuel+1,first => do
    let n := (← get).rest.length
    let implicit := first && !(← isAt [.directive,.documentStart,.streamEnd])
    if !implicit then
      skipAll .documentEnd
      if (← peek).kind == .streamEnd then return []
      skipAll .directive
      if (← peek).kind != .documentStart then fail
      skip
    let root ← unlessAt [.directive,.documentStart,.documentEnd,.streamEnd] (← peek).start (node (2*n+2) true false)
    modify fun s => {s with names := []}
    if (← peek).kind == .documentEnd then skip
    return root :: (← documents fuel false)

end Tree

def documents (text : String) (tabs : Bool) : Result (List Node) := do
  let ts := tokens text tabs
  let (nodes,_) ← (Tree.documents (ts.list.length+1) true).run {rest := ts.list, fault := ts.fault}
  return nodes

def truthWords : List (String × Bool) :=
  ["yes","Yes","YES","true","True","TRUE","on","On","ON"].map (·,true) ++
    ["no","No","NO","false","False","FALSE","off","Off","OFF"].map (·,false)

def floatPattern := of
  ("^(?:[-+]?(?:[0-9][0-9_]*)\\.[0-9_]*(?:[eE][-+][0-9]+)?|\\.[0-9][0-9_]*(?:[eE][-+][0-9]+)?" ++
    "|[-+]?[0-9][0-9_]*(?::[0-5]?[0-9])+\\.[0-9_]*|[-+]?\\.(?:inf|Inf|INF)|\\.(?:nan|NaN|NAN))$")

def intPattern := of
  ("^(?:[-+]?0b[0-1_]+|[-+]?0[0-7_]+|[-+]?(?:0|[1-9][0-9_]*)|[-+]?0x[0-9a-fA-F_]+" ++
    "|[-+]?[1-9][0-9_]*(?::[0-5]?[0-9])+)$")

def datePattern := of "^[0-9][0-9][0-9][0-9]-[0-9][0-9]-[0-9][0-9]$"

def timePattern := of
  ("^[0-9][0-9][0-9][0-9]-[0-9][0-9]?-[0-9][0-9]?(?:[Tt]|[ \\t]+)[0-9][0-9]?:[0-9][0-9]:[0-9][0-9]" ++
    "(?:\\.[0-9]*)?(?:[ \\t]*(?:Z|[-+][0-9][0-9]?(?::[0-9][0-9])?))?$")

def digitsOf (base : Nat) (cs : List Char) : Nat := cs.foldl (fun n c => base*n+(Json.hexValue? c).getD 0) 0

def sixties (parts : List String) : Int := parts.foldl (fun (n : Int) p => 60*n+(Decimal.int? p).getD 0) 0

variable (s : String)

def intOf : Int :=
  let (negative,cs) := Decimal.splitSign (replace s "_" "").toList
  (if negative then -1 else 1)*(match cs with
    | '0' :: 'b' :: r => Int.ofNat (digitsOf 2 r)
    | '0' :: 'x' :: r => Int.ofNat (digitsOf 16 r)
    | '0' :: r => Int.ofNat (digitsOf 8 r)
    | _ => sixties (split (String.ofList cs) ":"))

def floatOf : Float :=
  (Decimal.float? (replace (replace (replace (lower s) "_" "") ".inf" "inf") ".nan" "nan")).getD 0

def plainValue : Value :=
  if ["","~","null","Null","NULL"].contains s then .null
  else match truthWords.lookup s with
    | some b => .bool b
    | none =>
      if !("-+0123456789.".toList.contains (s.toList.headD ' ')) then .str s
      else if floatPattern.matches? s then .float (floatOf s)
      else if intPattern.matches? s then .int (intOf s)
      else if datePattern.matches? s then .thing "date"
      else if timePattern.matches? s then .thing "datetime"
      else .str s

mutual

/-- Of equal keys the last value counts. A tag that names no known type is refused. Every mapping
gets what `added` says for where it starts and ends. -/
def Node.valueWith (added : Mark → Mark → Fields) : Node → Result Value
  | .scalar tag text plain _ _ =>
    match tag with
    | none => .ok (if plain then plainValue text else .str text)
    | some "!" | some "!!str" => .ok (.str text)
    | some _ => .error .unreadableYaml
  | .sequence tag items _ _ =>
    if tag.isSome && tag != some "!!seq" then .error .unreadableYaml
    else do return .list (← valuesWith added items)
  | .mapping tag pairs start stop =>
    if tag.isSome && tag != some "!!map" then .error .unreadableYaml
    else do
      let es ← entriesWith added pairs
      let marks := (added start stop).map fun (k,v) => (Value.str k,v)
      return Value.ofEntries (Value.insertAll (es ++ marks) [])

def valuesWith (added : Mark → Mark → Fields) : List Node → Result (List Value)
  | [] => .ok []
  | n::r => do return (← n.valueWith added) :: (← valuesWith added r)

def entriesWith (added : Mark → Mark → Fields) : List (Node × Node) → Result Entries
  | [] => .ok []
  | (k,v)::r => do
    let key ← k.valueWith added
    if !key.hashable then throw .unreadableYaml
    let value ← v.valueWith added
    return (key,value) :: (← entriesWith added r)

end

def Node.value (n : Node) : Result Value := n.valueWith fun _ _ => []

def lineKeys (start stop : Mark) : Fields := [("__startline__",.int (start.line+1)),("__endline__",.int (stop.line+1))]

def readLined (text : String) : Result (List Value) := do
  (← documents text false).mapM fun n => n.valueWith lineKeys

def read (text : String) : Result Value := do
  match ← documents text false with
  | [] => return .null
  | [n] => n.value
  | _ => throw .unreadableYaml

end InfraAudit.Yaml
