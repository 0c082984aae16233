import InfraAudit.Template.Node
import InfraAudit.Yaml.Scalar

namespace InfraAudit.Template

def startLine : String := "__startline__"

def stopLine : String := "__endline__"

def markOf (m : Yaml.Mark) : Mark := ⟨m.line,m.column⟩

def spanOf (n : Yaml.Node) : Span := ⟨markOf n.start,markOf n.stop⟩

def lineFields (span : Span) : List (Key × Node) :=
  [(.ofText startLine span,.plain (.int (span.start.line+1))),(.ofText stopLine span,.plain (.int (span.stop.line+1)))]

def setField (k : Key) (v : Node) : List (Key × Node) → List (Key × Node)
  | [] => [(k,v)]
  | (k',v')::r => if k'.points == k.points then (k',v) :: r else (k',v') :: setField k v r

def scalarNode (tag : Option String) (text : String) (plain : Bool) (span : Span) : Result Node :=
  match tag with
  | none => match if plain then Yaml.plainValue text else .str text with
    | .str s => .ok (.text s span)
    | v => .ok (.plain v)
  | some "!" | some "!!str" => .ok (.text text span)
  | some _ => .error .unreadableYaml

mutual

def ofYaml : Yaml.Node → Result Node
  | .scalar tag text plain start stop => scalarNode tag text plain ⟨markOf start,markOf stop⟩
  | .sequence tag items start stop =>
    if tag.isSome && tag != some "!!seq" then .error .unreadableYaml
    else do return .list (← ofYamlItems items) ⟨markOf start,markOf stop⟩
  | .mapping tag pairs start stop =>
    if tag.isSome && tag != some "!!map" then .error .unreadableYaml
    else do
      let span : Span := ⟨markOf start,markOf stop⟩
      let fields ← ofYamlPairs [] pairs
      return .dict ((lineFields span).foldl (fun fs (k,v) => setField k v fs) fields) span

def ofYamlItems : List Yaml.Node → Result (List Node)
  | [] => .ok []
  | n::r => do return (← ofYaml n) :: (← ofYamlItems r)

def ofYamlPairs : List String → List (Yaml.Node × Yaml.Node) → Result (List (Key × Node))
  | _,[] => .ok []
  | seen,(k,v) :: r => do
    let name := (← ofYaml k).value.display
    let value ← ofYaml v
    if seen.contains name then throw .unreadableYaml
    return (.ofText name (spanOf k),value) :: (← ofYamlPairs (name::seen) r)

end

def readYaml (text : String) : Result Node := do
  match ← Yaml.documents text true with
  | [] => return .plain (.dict [])
  | [n] =>
    match ← ofYaml n with
    | .plain .null => return .plain (.dict [])
    | t => return t
  | _ => throw .unreadableYaml

end InfraAudit.Template
