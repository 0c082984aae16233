import InfraAudit.Policy.KnownTypes
import InfraAudit.Policy.Verdicts

namespace InfraAudit.Policy

inductive Kind where
  | single
  | combined
  | connection
  | combinedConnection
  | filter
  deriving DecidableEq, Repr

def Kind.name : Kind → String
  | .single => "ATTRIBUTE"
  | .combined => "COMPLEX"
  | .connection => "CONNECTION"
  | .combinedConnection => "COMPLEX_CONNECTION"
  | .filter => "FILTER"

def Kind.isConnection : Kind → Bool
  | .connection | .combinedConnection => true
  | _ => false

def Kind.ofCondType? (v : Value) : Result (Option Kind) :=
  if !v.hashable then .error .wrongKind
  else .ok (match v with
    | "" | "attribute" => some .single
    | "connection" => some .connection
    | "filter" => some .filter
    | _ => none)

def Kind.shown : Option Kind → String
  | some k => "SolverType." ++ k.name
  | none => "None"

inductive Draft where
  | leaf (kind : Option Kind) (operator key value : Value) (types connected : TypeNames)
  | node (operator : String) (parts : List Draft)

def TypeNames.ofValue : Value → TypeNames
  | .str s => .partOf s
  | v => .oneOf (v.items.filterMap Value.text?)

namespace Draft

def isOpen (v : Value) : Result Bool :=
  if v.falsy then .ok true
  else match v with
    | .str s => .ok (Text.lower s == "all")
    | .list (x::_) => do return (← x.lowered) == "all"
    | _ => .ok false

def combiners := ["and","or","not"]

def combiner? (v : Value) : Result (Option String) := do
  for op in combiners do
    if (← v.get op).truthy then return some op
  return none

mutual

def kind : Draft → Option Kind
  | .leaf k _ _ _ _ _ => k
  | .node _ ps => if anyConnection ps then some .combinedConnection else some .combined

def anyConnection : List Draft → Bool
  | [] => false
  | p::ps => (kind p).any Kind.isConnection || anyConnection ps

end

mutual

def typeList : Draft → List String
  | .leaf _ _ _ _ ts _ => ts.members
  | .node _ ps => typeLists ps

def typeLists : List Draft → List String
  | [] => []
  | p::ps => typeList p ++ typeLists ps

end

def types : Draft → TypeNames
  | .leaf _ _ _ _ ts _ => ts
  | d => .oneOf d.typeList.eraseDups

def operator : Draft → Value
  | .leaf _ op _ _ _ _ => op
  | .node op _ => .str op

mutual

def keys : Draft → Result (List String)
  | .leaf _ _ a _ _ _ => if a.falsy then .ok [] else do return [Text.join "/" (← a.splitOn ".")]
  | .node _ ps => keysOf ps

def keysOf : List Draft → Result (List String)
  | [] => .ok []
  | p::ps => do return (← keys p) ++ (← keysOf ps)

end

def isText : TypeNames → Bool
  | .partOf _ => true
  | .oneOf _ => false

def readLeaf (known : List String) (v : Value) : Result Draft := do
  let types ← v.getOr "resource_types" (.list [])
  let types ← if ← isOpen types then pure (.oneOf known) else pure (TypeNames.ofValue types)
  let connected ← v.getOr "connected_resource_types" (.list [])
  let connected := if connected == .list ["All"] || connected == "all" then TypeNames.oneOf known
    else .ofValue connected
  let condType ← v.getOr "cond_type" ""
  let kind ← Kind.ofCondType? condType
  let operator ← if condType == .str "" then pure (.str "any") else v.getOr "operator" (.str "")
  return .leaf kind operator (← v.get "attribute") (← v.get "value") types connected

def read (known : List String) : Nat → Value → Result Draft
  | 0,_ => .error .tooDeep
  | n+1,v => do
    match ← combiner? v with
    | none => readLeaf known v
    | some op =>
      let parts ← v.get op
      let parts ← if parts.isDict then pure [parts] else parts.elems
      let drafts ← parts.mapM (read known n)
      if drafts.any (isText ·.types) then throw .wrongKind
      return .node op drafts

def unsupported (d : Draft) : Fault :=
  .unsupported s!"solver type {Kind.shown d.kind} with operator {d.operator.display} is not supported"

def queryMark : String := "jsonpath_"

def link? : Value → Option Link
  | "exists" => some .linked
  | "not_exists" => some .notLinked
  | "one_exists" => some .oneLinked
  | _ => none

def onlyChild : Fault := .failure "The \"not\" operator must have exactly one child"

def leafCondition (kind : Option Kind) (op key value : Value) (types connected : TypeNames) : Result Condition := do
  if !op.hashable then throw .wrongKind
  if op == "not" then throw onlyChild
  let name ← op.asText
  match kind with
  | some .single =>
    let byPath := Text.startsWith name queryMark
    match Operator.ofName? (if byPath then Text.replace name queryMark "" else name) with
    | some operator => return .attr {types, operator, attribute? := key.text?, value, byPath}
    | none => throw (unsupported (.leaf kind op key value types connected))
  | some .connection =>
    match link? op with
    | some link => return .connection link types connected
    | none => throw (unsupported (.leaf kind op key value types connected))
  | some .filter =>
    if op == "within" then return .filter key.text? value types
    else throw (unsupported (.leaf kind op key value types connected))
  | _ => throw (unsupported (.leaf kind op key value types connected))

mutual

def condition : Draft → Result Condition
  | .leaf k op a v ts us => leafCondition k op a v ts us
  | .node op ps => do
    let cs ← conditions ps
    match op with
    | "and" => return .conj cs
    | "or" => return .disj cs
    | _ => match cs with
      | [c] => if anyConnection ps then throw (unsupported (.node op ps)) else return .negation c
      | _ => throw onlyChild

def conditions : List Draft → Result (List Condition)
  | [] => .ok []
  | p::ps => do
    let c ← condition p
    return c :: (← conditions ps)

end

end Draft

structure Rule where
  id : Value
  name : Value
  category : Value
  frameworks : Value
  kind : Option Kind
  operator : Value
  types : TypeNames
  condition : Condition
  draft : Draft

namespace Rule

def keys (p : Rule) : Result (List String) := do return (← p.draft.keys).eraseDups

def ofDraft (id name category frameworks : Value) (draft : Draft) : Result Rule := do
  let condition ← draft.condition
  return {
    id, name, category, frameworks, kind := draft.kind, operator := draft.operator, types := draft.types
    condition, draft }

def readWith (known : List String) (v : Value) : Result Rule := do
  let definition ← v.getOr "definition" (.dict [])
  let draft ← Draft.read known (definition.nesting+1) definition
  let metadata ← v.getOr "metadata" (.dict [])
  let id ← metadata.getOr "id" ""
  let name ← metadata.getOr "name" ""
  let category ← metadata.getOr "category" ""
  let frameworks ← metadata.getOr "frameworks" (.list [])
  ofDraft id name category frameworks draft

def read (v : Value) : Result Rule := do
  let provider ← (← (← v.getOr "scope" (.dict [])).getOr "provider" "").lowered
  readWith ((knownTypes? provider).getD []) v

def apply (p : Rule) (g : Net) : Result Outcome × Net := (Run.policy p.condition).run.run g

def run (p : Rule) (g : Net) : Result (Outcome × Net) :=
  let (o,g) := p.apply g
  o.map (·,g)

end Rule

end InfraAudit.Policy
