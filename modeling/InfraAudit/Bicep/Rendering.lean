import InfraAudit.Expr.Coercion
import InfraAudit.CodeLines
import InfraAudit.Graph.Basic
import InfraAudit.Workspace

namespace InfraAudit.Bicep

open Fields Graph

structure DeclarationFile where
  path : String
  tree : Value
  lines : List CodeLine

namespace DeclarationFile

def read? (path : String) (f : SourceFile) : Option DeclarationFile :=
  let lines := CodeLine.ofText (Text.unifyLineEnds f.text)
  match f.tree with
  | some tree => if tree.truthy && !lines.isEmpty then some ⟨path,tree,lines⟩ else none
  | none => none

def extension : String := ".bicep"

variable (ws : Workspace)

def ofPaths (paths : List String) : List DeclarationFile × List String :=
  let rows := paths.filterMap fun p => (ws.file? p).map fun f => (p,read? p f)
  (rows.filterMap Prod.snd,(rows.filter (·.2.isNone)).map Prod.fst)

def allPaths : List String := Text.sort ((ws.files.map Prod.fst).filter (Text.endsWith · extension))

def visiblePaths (excluded : List String) : Result (List String) := do
  return (← ws.sources [] excluded).filter fun p => PathName.extension p == extension

end DeclarationFile

inductive BlockKind where
  | targetScope
  | parameter
  | value
  | resource
  | call
  | output
  deriving DecidableEq, Repr

def BlockKind.name : BlockKind → String
  | .targetScope => "targetScope"
  | .parameter => "param"
  | .value => "var"
  | .resource => "resource"
  | .call => "module"
  | .output => "output"

def BlockKind.heading : BlockKind → String
  | .targetScope => "globals"
  | .parameter => "parameters"
  | .value => "variables"
  | .resource => "resources"
  | .call => "modules"
  | .output => "outputs"

def BlockKind.all : List BlockKind := [.targetScope,.parameter,.value,.resource,.call,.output]

def setFields : Value → Result Fields
  | .dict fs => .ok fs
  | .str s => if s.isEmpty then .ok [] else .error .badValue
  | .list [] => .ok []
  | _ => .error .wrongKind

def typedAttributes (conf : Value) (described : List String) : Result Fields := do
  let own ← ("type" :: described).mapM fun k => do return (k ++ "_",← conf.field k)
  let inner ← setFields (← conf.field "config")
  let last ← ["__start_line__","__end_line__"].mapM fun k => do return (k,← conf.field k)
  let fs := ("decorators",← conf.field "decorators") :: own
  return update (update fs inner) (("resource_type",← conf.field "type") :: last)

def blockOf (path : String) (kind : BlockKind) (name : String) (conf : Value) : Result Block := do
  let attributes ← match kind with
    | .resource => typedAttributes conf ["api_version","existing"]
    | .call => typedAttributes conf ["detail"]
    | _ => if conf.isDict then pure conf.fields else throw .wrongKind
  let id ← match kind with
    | .targetScope => pure kind.name
    | .resource | .call => pure ((← conf.field "type").display ++ "." ++ name)
    | _ => pure (kind.name ++ "." ++ name)
  return .make {kind := kind.name, name, id, path, source := "Bicep", config := conf, attributes}

def blocksOfKind (file : DeclarationFile) (kind : BlockKind) : Result (List Block) := do
  let found ← file.tree.get kind.heading
  if found.falsy then return []
  match kind with
  | .targetScope => return [← blockOf file.path kind kind.name (← found.field "scope")]
  | _ => (← found.pairs).mapM fun (name,conf) => blockOf file.path kind name.display conf

def blocksOf (files : List DeclarationFile) : Result (List Block) := do
  let blocks ← files.mapM fun f => BlockKind.all.mapM (blocksOfKind f)
  return blocks.flatten.flatten

open InfraAudit.Graph (Block Edge)

def referencesIn : Value → List String
  | .element s => [s]
  | .list xs => xs.filterMap fun
    | .element s => some s
    | _ => none
  | _ => []

def referredName (element : String) : String := (Text.split element ".").headD ""

def numberOf? (blocks : Array Block) (name : String) : Option Nat :=
  (blocks.toList.zipIdx.filter fun (b,_) => b.name == name).getLast?.map Prod.snd

def edgesFor (vs : Array Block) (i : Nat) (label element : String) : List Edge :=
  match numberOf? vs (referredName element) with
  | some (d+1) => Graph.between i (d+1) label
  | _ => []

def connected (vs : Array Block) : Graph where
  vertices := vs
  edges := (List.range vs.size).flatMap fun i => (vs.getD i default).attributes.flatMap fun (label,v) =>
    (referencesIn v).flatMap (edgesFor vs i label)

variable (g : Graph)

def along : List String → Value → Value
  | [],v => v
  | k::ks,v => if v.isDict then along ks ((v.get? k).getD .null) else v

def elementValue (element : String) (v : Value) : Value := along ((Text.split element ".").drop 1) v

def standIn (old new : Value) : Result Value := do
  if ← old.has "." then
    if new.isDict then return elementValue (← old.asText) new
  return new

/-- What a block gives to an element that refers to it, and by which attribute. -/
def givenValue (b : Block) (element : String) : Result (Option (String × Value)) :=
  if b.kind == BlockKind.parameter.name then
    let default := (get? b.attributes "default").getD .null
    .ok (if default.truthy then some ("default",elementValue element default) else none)
  else if b.kind == BlockKind.value.name then
    match get? b.attributes "value" with
    | some v => .ok (some ("value",elementValue element v))
    | none => .error .missingKey
  else .ok none

def follow : List Edge → Result Graph
  | [] => .ok g
  | e::_ => do
    match get? (g.vertex e.origin).attributes e.label with
    | some (.element s) =>
      match ← givenValue (g.vertex e.dest) s with
      | some (place,v) => return g.changeAttribute e.origin e.label v e.dest place
      | none => return g
    | _ => return g

def joinedKey (config : Fields) (key : String) : List String → String × List String
  | [] => (key,[])
  | p::ps => if has config key then (key,p::ps) else joinedKey config (key ++ "." ++ p) ps

def replaced (old new : Value) : Result Value := do
  let v ← standIn old new
  return if v.isNull then old else v

def placeAt (new : Value) : Nat → List String → Value → Result Value
  | 0,_,config | _,[],config => .ok config
  | n+1,key :: rest,.dict fs => do
    let (key,rest) := if rest.isEmpty then (key,[]) else joinedKey fs key rest
    let some old := get? fs key | throw .missingKey
    let v ← if rest.isEmpty then replaced old new else placeAt new n rest old
    return .dict (insert key v fs)
  | n+1,key :: rest,.list xs => do
    let some i := intOf? (.str key) | return .list xs
    let old ← Value.nth xs i
    let v ← if rest.isEmpty then replaced old new else placeAt new n rest old
    let j := if i < 0 then i+xs.length else i
    return .list (xs.set j.toNat v)
  | _,_,config => .ok config

def configWith (config : Value) (key : String) (new : Value) : Result Value :=
  let parts := Text.split key "."
  placeAt new parts.length parts config

def settled (b : Block) : Result Block := do
  if b.kind != BlockKind.resource.name then return b
  let inner ← b.config.field "config"
  let inner ← (Graph.withoutStems (b.changed.map Prod.fst)).foldlM (fun c k =>
    configWith c k ((get? b.attributes k).getD .null)) inner
  return {b with config := b.config.set! "config" inner}

def render : Result Graph := do
  let g ← g.links.passes.foldlM (fun g pass => (Links.groups pass).foldlM follow g) g
  return {g with vertices := ← g.vertices.mapM settled}

def graphOf (files : List DeclarationFile) (rendered : Bool) : Result Graph := do
  let g := connected (← blocksOf files).toArray
  if rendered then render g else return g

end InfraAudit.Bicep
