import InfraAudit.Terraform.Evaluation
import InfraAudit.Terraform.Linking

namespace InfraAudit.Terraform

open Fields Text

open InfraAudit.Graph (Block Edge)

namespace Rendering

def unevaluatedKeys := ["template_body","template"]

def typeWord := Text.Pattern.of "^(\\$\x7b)?([a-z]+)"

def placeholder (type : Value) : Value :=
  match type with
  | .str s =>
    match (typeWord.matchStart? s).bind fun m => m.group? 2 with
    | some "list" => .list []
    | some "map" => .dict []
    | _ => .null
  | _ => .null

def longestStart (attributes : Fields) (path : List String) : Nat → Option Value
  | 0 => none
  | n+1 =>
    ((get? attributes (join "." (path.take (n+1)))).filter (!·.isNull)).or (longestStart attributes path n)

/-- A variable falls back on its default, in which the path is followed too, and an output on its
value. -/
def valueAtFuel : Nat → List String → Fields → Value
  | 0,_,_ => .null
  | n+1,path,attributes =>
    let own (path : List String) := longestStart attributes path path.length
    let get (k : String) := (get? attributes k).getD .null
    let kind := get "block_type_"
    ((own path).or (own path.reverse)).getD <|
      if kind == "variable" || kind == "tfvar" then
        let default := if (get "default").isNull then placeholder (get "type") else get "default"
        let inner := match default with
          | .dict fs => valueAtFuel n path fs
          | _ => .null
        if inner.falsy then default else inner
      else if kind == "output" then get "value"
      else .null

def valueAt (path : List String) (attributes : Fields) : Value :=
  valueAtFuel ((Value.dict attributes).nesting+2) path attributes

def leadingName (parts : List String) (n : Nat) : String := join "." ((parts.map Reference.withoutIndexes).take n)

def referenceTo (attributes : Fields) : List Reference → Option (List String × String)
  | [] => none
  | r::rs =>
    let kind := (get? attributes "block_type_").getD .null
    let name := (get? attributes "block_name_").getD .null
    let names (parts : List String) := (List.range parts.length).map fun i => leadingName parts (i+1)
    if kind == .str r.kind then
      if (names r.parts).any fun n => name == .str n then some (r.parts,r.text)
      else referenceTo attributes rs
    else if r.kind == "module" then
      match (names r.parts.reverse).find? fun n => name == .str n with
      | some n => some (split n ".",r.text)
      | none => referenceTo attributes rs
    else referenceTo attributes rs

def placeIn (b : Block) (path : List String) : Option String :=
  let has (k : String) := ((get? b.attributes k).getD .null).truthy
  match path with
  | [] => none
  | first::rest =>
    if has first then some first
    else match b.kind with
      | "variable" => (some "default").filter has
      | "output" => (some "value").filter has
      | "resource" => rest.head?.filter fun second => b.name == first && has second
      | _ => none

variable (types : List String) (g : Graph)

def assign (vertex : Nat) (key : String) (new : Value) (origin : Nat) (path : List String) : Result Graph := do
  let fixed := unevaluatedKeys.contains key
  let text := if fixed then new.display else "\"" ++ new.display ++ "\""
  let text := replace text "\\\\" "\\"
  let v ← if fixed then pure (.str text) else evaluate (.str text)
  return g.changeAttribute vertex key v origin (placeIn (g.vertex origin) path)

def labelPath (label : String) : List String := label.toList.map String.singleton

def follow (edges : List Edge) : Result Graph := do
  let some first := edges.head? | return g
  let b := g.vertex first.origin
  let value := (get? b.attributes first.label).getD ""
  let references ← Reference.inValue (.dict []) types value
  let dest := g.vertex first.dest
  if references.isEmpty then
    if b.kind == "variable" && dest.kind == "module" then
      let v ← (get? dest.attributes b.name).elim (.error .missingKey) .ok
      assign g first.origin first.label v first.dest (labelPath first.label)
    else if b.kind == "variable" && dest.kind == "tfvar" then
      let values := (edges.map fun e => g.vertex e.dest).filter fun v => v.kind == "tfvar"
      let v ← (get? ((values.getLast?).getD default).attributes "default").elim (.error .missingKey) .ok
      assign g first.origin first.label v first.dest (labelPath first.label)
    else return g
  else
    let single := edges.length == 1
    let (g,new,path) ← edges.foldlM (fun (acc : Graph × Value × List String) e => do
      let (g,new,path) := acc
      let attributes := (g.vertex e.dest).attributeView false
      match referenceTo attributes references with
      | none | some ([],_) => return acc
      | some (place,text) =>
        if text.isEmpty then return acc
        let found := valueAt place attributes
        let new' ← if found.isNull then pure new else replaceReference text found true new
        let path := if path.isEmpty then place else path
        if single && !(new' == value) then return (← assign g e.origin e.label new' e.dest place,new',path)
        return (g,new',path)) (g,value,[])
    let last := (edges.getLast?).getD first
    if !single && !(new == value) then assign g last.origin last.label new last.dest path
    else return g

def runPass (edges : List Edge) : Result Graph := (Graph.Links.groups edges).foldlM (follow types) g

mutual

/-- Set where its first part stands, or else in every part. A single value in the place of a list
becomes a list. -/
def updateConfig (parts : List String) (new : Value) : Value → Value
  | .dict fs =>
    let key := parts.headD ""
    match get? fs key with
    | some old =>
      if old.isNull then .dict (updateAllFields parts new fs)
      else if parts.length == 1 then .dict (insert key (if old.isList && !new.isList then .list [new] else new) fs)
      else .dict (updateField key (parts.drop 1) new fs)
    | none => .dict (updateAllFields parts new fs)
  | .list xs => .list (updateItems parts new xs)
  | v => v

def updateField (key : String) (rest : List String) (new : Value) : Fields → Fields
  | [] => []
  | (k,v)::r => if k == key then (k,updateConfig rest new v) :: r
    else (k,v) :: updateField key rest new r

def updateAllFields (parts : List String) (new : Value) : Fields → Fields
  | [] => []
  | (k,v)::r => (k,updateConfig parts new v) :: updateAllFields parts new r

def updateItems (parts : List String) (new : Value) : List Value → List Value
  | [] => []
  | x::xs => updateConfig parts new x :: updateItems parts new xs

end

def updateKey (key : String) (new config : Value) : Value := updateConfig (split key ".") new config

def enter (v : Value) (taken : List String) : List String → Result Value
  | [] => .ok v
  | p::ps => do
    let key := join "." (taken ++ [p])
    if ← v.has key then enter (← v.field key) [] ps else enter v (taken ++ [p]) ps

def writeBack (b : Block) (keys : List String) : Result Block := do
  if keys.isEmpty then return b
  let own ← if b.kind == "locals" then pure b.config else enter b.config [] (split b.name ".")
  let own := keys.foldl (fun v k =>
    match get? b.attributes k with
    | none | some .null => v
    | some new => updateKey (if b.kind == "locals" then replace k (b.name ++ ".") "" else k) new v) own
  let own ← if b.kind == "locals" then own.get b.name else pure own
  return {b with config := updateKey b.name own b.config}

mutual

def evaluateDeep : Value → Result Value
  | .str s => if s.length > longestEvaluated then .ok (.str s) else evaluate (.str s) false
  | .list xs =>
    if (Value.list xs).display.length > longestEvaluated then .ok (.list xs)
    else do return .list (← evaluateItems xs)
  | .set xs =>
    if (Value.set xs).display.length > longestEvaluated then .ok (.set xs)
    else do
      let ys ← evaluateItems xs
      return .ofItems (ys.map fun y => if y.hashable then y else .str y.display)
  | .dict fs =>
    if (Value.dict fs).display.length > longestEvaluated then .ok (.dict fs)
    else do return .ofEntries (← evaluateFields [] fs)
  | v => .ok v

def evaluateItems : List Value → Result (List Value)
  | [] => .ok []
  | x::xs => do return (← evaluateDeep x) :: (← evaluateItems xs)

def evaluateFields (acc : Entries) : Fields → Result Entries
  | [] => .ok acc
  | (k,v)::r => do
    let key ← if k.length > longestEvaluated then pure (.str k) else evaluate (.str k) false
    let new ← evaluateDeep v
    if !key.hashable then throw .wrongKind
    evaluateFields (Value.insertEntry key new acc) r

end

def isPlain : Value → Bool
  | .str s => s.toList.all (!"\x7b\x7d[]=".toList.contains ·)
  | _ => false

def evaluateAttribute (acc : Block × List String) (key : String) : Result (Block × List String) := do
  let (b,changed) := acc
  if Graph.reservedKeys.contains key || Graph.hasNested key b.attributes then return acc
  let value := (get? b.attributes key).getD .null
  let one (v : Value) : Result Value :=
    if isPlain v || unevaluatedKeys.contains key then .ok v else evaluateDeep v
  let new ← match value with
    | .list xs => do pure (.list (← xs.mapM one))
    | v => one v
  if new == value then return acc
  return (b.setInner key new,changed ++ [key])

/-- Collections that were written into the configuration before stay the same there and in the
attributes. -/
def evaluateBlock (written : List String) (old : Block) : Result Block := do
  let (b,changed) ← (old.attributes.map Prod.fst).foldlM evaluateAttribute (old,[])
  let touched := written.filter fun k =>
    let before := (get? old.attributes k).getD .null
    let now := (get? b.attributes k).getD .null
    Block.isContainer before && !changed.contains k && !(before == now)
  writeBack (← writeBack b touched) changed

def crumbs (t : Nat) : Value :=
  .list ((g.trail t).map fun c => .dict ((g.vertex c.vertex).summary ++ [("module_connection",.bool false)]))

def moduleTrail (g : Graph) : Nat → Block → List Value
  | 0,_ => []
  | n+1,b =>
    match b.sourceModules with
    | [i] => moduleTrail g n (g.vertex i) ++ [.dict (g.vertex i).summary]
    | _ => []

def noteTrails : Graph :=
  { g with vertices := g.vertices.map fun b =>
      let notes := b.changed.foldl (fun fs (k,t) => insert k (crumbs g t) fs) b.breadcrumbs
      let modules := moduleTrail g (g.vertices.size+1) b
      { b with breadcrumbs := if modules.isEmpty then notes
          else insert "source_module_" (.list modules) notes } }

def render : Result Graph := do
  let g ← g.links.passes.foldlM (runPass types) g
  let vertices ← g.vertices.mapM fun b => do
    let written := Graph.withoutStems (b.changed.map Prod.fst)
    evaluateBlock written (← writeBack b written)
  return noteTrails {g with vertices}

end Rendering

end InfraAudit.Terraform
