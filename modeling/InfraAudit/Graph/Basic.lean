import InfraAudit.Graph.Attributes
import InfraAudit.Text.Digest

namespace InfraAudit.Graph

open Fields Text

structure Edge where
  origin : Nat
  dest : Nat
  label : String
  deriving DecidableEq, Repr, Inhabited

/-- Edges in the order of their creation, between blocks below `size`. -/
structure Links where
  size : Nat
  edges : List Edge
  deriving Inhabited

namespace Links

variable (l : Links)

def into (v : Nat) : List Edge := l.edges.filter fun e => e.dest == v

def out (v : Nat) : List Edge := l.edges.filter fun e => e.origin == v

def intoAny (vs : List Nat) : List Edge := (vs.flatMap l.into).eraseDups

def byDestDegree (es : List Edge) : List Edge :=
  (es.map fun e => (e,(l.out e.dest).length)).mergeSort (fun a b => a.2 ≤ b.2) |>.map Prod.fst

def ends : List Nat := (List.range l.size).filter fun v => (l.out v).isEmpty && !(l.into v).isEmpty

structure Progress where
  now : List Edge
  past : List (List Edge) := []
  /-- Blocks all of whose outgoing edges were worked out at some time. -/
  finished : List Nat := []
  repeats : Nat := 0
  deriving Inhabited

def mostPasses : Nat := 50

/-- A pass repeats another if they share more than this percentage of its edges. -/
def repeatPercent : Nat := 90

def mostRepeats : Nat := 4

def overlapPercent (now earlier : List Edge) : Nat :=
  let distinct := now.eraseDups
  (distinct.filter fun e => earlier.contains e).length*100 / now.length

def insertVertex (v : Nat) (vs : List Nat) : List Nat := if vs.contains v then vs else vs ++ [v]

/-- A block is finished when all its edges have been worked out. The next pass holds the edges into
finished blocks that were not in this one. -/
def Progress.next (p : Progress) : Progress :=
  let past := p.now :: p.past
  let done := past.flatten
  let finished := p.now.foldl (fun vs e =>
    if (l.out e.origin).all done.contains then insertVertex e.origin vs else vs) p.finished
  let fresh := (l.intoAny (finished.mergeSort)).filter fun e => !p.now.contains e
  {now := l.byDestDegree fresh, past, finished, repeats := p.repeats}

def passesFrom (l : Links) : Nat → Progress → List (List Edge)
  | 0,_ => []
  | n+1,p =>
    if p.now.isEmpty then []
    else
      let repeats := if overlapPercent p.now ((p.past[1]?).getD []) > repeatPercent then p.repeats+1
        else p.repeats
      if repeats > mostRepeats then []
      else p.now :: passesFrom l n ({p with repeats}.next l)

def passes : List (List Edge) := passesFrom l mostPasses {now := l.byDestDegree (l.ends.flatMap l.into)}

def groups (es : List Edge) : List (List Edge) :=
  (es.foldl (fun gs e => upsert (toString e.origin ++ e.label) [] (· ++ [e]) gs) []).map Prod.snd

end Links

structure Crumb where
  vertex : Nat
  key : Option String
  deriving DecidableEq, Repr, Inhabited

structure ModuleOrigin where
  /-- The files of the calls that lead to the module, joined by `->`. -/
  dependency : String := ""
  number : String := ""
  deriving DecidableEq, Repr, Inhabited

structure Block where
  kind : String
  name : String
  id : String := ""
  path : String
  source : String := ""
  config : Value
  attributes : Fields
  /-- Dotted keys that still show a part of their first part's attribute. -/
  views : List String := []
  changed : List (String × Nat) := []
  breadcrumbs : Fields := []
  origin? : Option ModuleOrigin := none
  sourceModules : List Nat := []
  condition : Bool := true
  metadata : Value := .null
  deriving Inhabited

def reservedKeys :=
  ["BLOCK_NAME","BLOCK_TYPE","FILE_PATH","CONFIG","ATTRIBUTES","LABEL","ID","HASH",
    "RENDERING_BREADCRUMBS","SOURCE","RESOURCE_TYPE","RESOURCE_ID","SOURCE_MODULE",
    "MODULE_DEPENDENCY","MODULE_DEPENDENCY_NUM","ENCRYPTION","ENCRYPTION_DETAILS"]

namespace Block

variable (b : Block)

/-- Nested lists of one item are unwrapped in blocks of modules. -/
def unwraps : Bool := b.origin?.isSome

def dependency (b : Block) : String := (b.origin?.map (·.dependency)).getD ""

def dependencyNumber : String := (b.origin?.map (·.number)).getD ""

def isFlattened : Value → Bool
  | .dict _ | .table _ | .list (.dict _ :: _) | .list (.table _ :: _) => true
  | _ => false

def make : Block :=
  let added := b.attributes.flatMap fun (k,v) =>
    if isFlattened v then innerAttributes b.unwraps b.unwraps k v else []
  { b with
    attributes := update b.attributes added
    views := (added.map Prod.fst).filter fun k => contains k "." }

def label : String := b.kind ++ ": " ++ b.name

/-- With its parts; the single item of an undotted attribute is unwrapped. -/
def shown (k : String) (v : Value) : Fields :=
  let v := if contains k "." then v else v.unwrapped
  if k == "self" then [("self_",v)] else innerAttributes b.unwraps false k v ++ [(k,withoutEmptyKeys v)]

def plainAttributes : Fields :=
  let base : Fields := [("block_name_",b.name),("block_type_",b.kind),
    ("file_path_",b.path),("config_",b.config),("label_",b.label),
    ("id_",b.id),("source_",b.source)]
  let fs := update base (b.attributes.flatMap fun (k,v) => b.shown k v)
  let fs := match b.origin? with
    | some m => insert "module_dependency_num_" (.str m.number)
        (insert "module_dependency_" (.str m.dependency) fs)
    | none => fs
  if b.breadcrumbs.isEmpty then fs
  else insert "rendering_breadcrumbs_" (.dict (sortOn Prod.fst b.breadcrumbs)) fs

def withDataType (fs : Fields) : Fields :=
  if b.kind == "data" then insert "resource_type" (.str ("data." ++ ((split b.id ".").headD ""))) fs
  else fs

def digestText : String :=
  let base := {b with breadcrumbs := []}.plainAttributes
  let fs := if b.changed.isEmpty then base
    else insert "changed_attributes" (Value.ofStrings (sort (b.changed.map Prod.fst))) base
  let fs := if b.breadcrumbs.isEmpty then fs
    else insert "rendering_breadcrumbs_" (.dict (sortOn Prod.fst b.breadcrumbs)) fs
  (Value.dict fs).display

def digest : String := sha256 (b.digestText)

def attributeView (withDigest : Bool) : Fields :=
  let fs := b.plainAttributes
  b.withDataType (if withDigest then insert "hash" (.str b.digest) fs else fs)

def setInner (b : Block) (key : String) (new : Value) : Block :=
  let parts := split key "."
  let attributes := (Graph.setInner parts new (.dict b.attributes)).fields
  let attributes := b.views.foldl (fun fs view =>
    if startsWith key (view ++ ".") && parts.length > 1 then
      match get? b.attributes view with
      | some v => insert view
          (Graph.setInner (parts.drop (split view ".").length) new v) fs
      | none => fs
    else fs) attributes
  {b with attributes, views := b.views.filter fun v => !startsWith v (key ++ ".")}

def setAttribute (key : String) (new : Value) : Block :=
  {b with attributes := insert key new b.attributes, views := b.views.filter (· != key)}

def isContainer : Value → Bool
  | .list _ | .dict _ | .table _ => true
  | _ => false

def setShown (key : String) (new : Value) : Block :=
  let b := b.setAttribute key new
  if contains key "." && isContainer new then {b with views := b.views ++ [key]} else b

/-- The paths above a dotted key down to two parts, each with its value when the key gets `new`.
With `choosing`, they end at a part numbered 1 or 2, a branch of a conditional. -/
def stems (choosing : Bool) (parts : List String) : Nat → Value → List (String × Value × Bool)
  | 0,_ => []
  | n+1,new =>
    let key := join "." (parts.take (n+1))
    if n == 0 then []
    else
      let last := (parts[n]?).getD ""
      if choosing && (last == "1" || last == "2") then [(key,new,false)]
      else (key,new,true) :: stems choosing parts n (.dict [(last,new)])

/-- Its items under their numbers, and the paths above it. Gives the keys that count as changed. -/
def assign (choosing : Bool) (key : String) (new : Value) : Block × List String :=
  let b := new.items.zipIdx.foldl (fun (b : Block) (x,i) => b.setShown (dotted key (toString i)) x) b
  let parts := split key "."
  if parts.length == 1 then (b.setAttribute key new,[key])
  else
    let ss := stems choosing parts parts.length new
    let b := ss.foldl (fun (b : Block) (k,v,_) =>
      if k == key then b.setShown k v else b.setAttribute k v) b
    (b,(ss.filter fun (_,_,counts) => counts).map Prod.fst)

def summary : Fields := [("type",b.kind),("name",b.name),("path",b.path)]

end Block

end InfraAudit.Graph

namespace InfraAudit

structure Graph where
  vertices : Array Graph.Block := #[]
  edges : List Graph.Edge := []
  trails : Array (List Graph.Crumb) := #[]
  deriving Inhabited

namespace Graph

def between (origin dest : Nat) (label : String) : List Edge :=
  if origin == dest then [] else [⟨origin,dest,label⟩]

variable (g : Graph)

def vertex (i : Nat) : Block := g.vertices.getD i default

def modifyVertex (i : Nat) (f : Block → Block) : Graph := {g with vertices := g.vertices.modify i f}

def links : Links := ⟨g.vertices.size,g.edges⟩

def trail (t : Nat) : List Crumb := g.trails.getD t []

def trailFrom (origin : Option Nat) (key : Option String) : Graph × Nat :=
  let known := do
    let v ← origin
    let k ← key
    if k.isEmpty then none else (g.vertex v).changed.lookup k
  match known with
  | some t => (g,t)
  | none => ({g with trails := g.trails.push []},g.trails.size)

def extendTrail (t origin : Nat) (key : Option String) : Graph :=
  let crumbs := g.trail t
  if (crumbs.getLast?.map (·.vertex)) == some origin then g
  else {g with trails := g.trails.modify t fun cs => cs ++ [⟨origin,key⟩]}

def markChanged (b : Block) (t : Nat) (keys : List String) : Block :=
  {b with changed := keys.foldl (fun acc k => upsert k t (fun _ => t) acc) b.changed}

def changeAttribute (i : Nat) (key : String) (new : Value) (origin : Nat) (place : Option String) : Graph :=
  let (g,t) := g.trailFrom (some origin) place
  let g := g.extendTrail t origin place
  g.modifyVertex i fun b =>
    let (b,keys) := (b.setInner key new).assign false key new
    markChanged b t keys

/-- Values by which a type of resource counts as encrypted; none stand for any value. -/
structure EncryptionRule where
  type : String
  expected : List (String × List Value)
  byDefault : Bool := false

structure EncryptionWords where
  nodeToNode : String
  default : String := "Default KMS"

namespace EncryptionRule

def of (type : String) (expected : List (String × List Value)) (byDefault : Bool := false) : EncryptionRule :=
  ⟨type,expected,byDefault⟩

variable (key : String)

def given : String × List Value := (key,[])

def isOn : String × List Value := (key,[true])

def oneOf (words : List String) : String × List Value := (key,words.map .str)

def step (words : EncryptionWords) (attributes : Fields) (acc : Bool × String)
    (rule : String × List Value) : Bool × String :=
  let v := (Fields.get? attributes rule.1).getD .null
  if v.falsy then acc
  else if acc.1 && (rule.2.isEmpty || Value.elem v rule.2) then
    if v == "AES256" then (true,"AES256")
    else if Text.contains rule.1 words.nodeToNode then (true,"node-to-node")
    else if acc.2.isEmpty then (true,"KMS")
    else (true,acc.2)
  else (false,acc.2)

def judge (words : EncryptionWords) (r : EncryptionRule) (attributes : Fields) : Bool × String :=
  let (agree,means) := r.expected.foldl (step words attributes) (true,"")
  if means.isEmpty && agree then (r.byDefault,if r.byDefault then words.default else "")
  else (agree,means)

end EncryptionRule

def markEncryption (words : EncryptionWords) (rules : List EncryptionRule) (g : Graph) : Graph :=
  { g with vertices := g.vertices.map fun b =>
      if b.kind != "resource" then b
      else match rules.find? fun r => r.type == (Text.split b.id ".").headD "" with
        | none => b
        | some r =>
          let (encrypted,means) := r.judge words (b.attributeView false)
          let b := b.setAttribute "encryption_" (.str (if encrypted then "ENCRYPTED" else "UNENCRYPTED"))
          b.setAttribute "encryption_details_" (.str means) }

end Graph

end InfraAudit
