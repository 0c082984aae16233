import InfraAudit.Report
import InfraAudit.Template.YamlReader
import InfraAudit.Graph.Basic

namespace InfraAudit.CloudFormation

open Text Fields Template CodeLine Graph

structure TemplateFile where
  path : String
  lines : List CodeLine
  root : Node
  deriving Inhabited

inductive Reading where
  | template (t : TemplateFile)
  | refused
  | ignored

namespace TemplateFile

def value (t : TemplateFile) : Value := t.root.value

def withoutLines (root : Node) : Node :=
  match root with
  | .dict fs span => .dict (fs.map fun (k,v) =>
      match k.text, v with
      | "Resources",.dict rs s =>
        (k,.dict (rs.filter fun (r,_) => r.text != startLine && r.text != stopLine) s)
      | _,v => (k,v)) span
  | n => n

/-- Properties are a mapping, and a name has no dot. What has no properties is no resource. -/
def isSound (name : String) (resource : Node) : Result Bool := do
  let v := resource.value
  if let some p ← v.reach? ["Properties"] then return p.isDict && !contains name "."
  return !contains name "."

/-- A text that cannot be split into tokens is no template of any kind. -/
def read (path text : String) : Reading :=
  let text := unifyLineEnds text
  if !contains text "Resources" then .ignored
  else match readYaml text with
    | .error .unreadableToken => .ignored
    | .error _ => .refused
    | .ok root =>
      match root.get? "Resources" with
      | some (.dict _ _) =>
        let root := withoutLines root
        match (((root.get? "Resources").map (·.fields)).getD []).allM fun (k,v) => isSound k.text v with
        | .ok true => .template {path, lines := ofText text, root}
        | .ok false => .refused
        | .error _ => .ignored
      | _ => .ignored

end TemplateFile

structure Templates where
  files : List TemplateFile := []
  errors : List String := []

def Templates.endings := [".yml",".yaml",".json",".template"]

def Templates.ofFiles (ws : Workspace) (paths : List String) : Templates :=
  (paths.eraseDups.filter fun p => endings.contains (PathName.extension p)).foldl (fun acc p =>
    match (ws.file? p).elim Reading.refused fun f => TemplateFile.read p f.text with
    | .template t => {acc with files := acc.files ++ [t]}
    | .refused => {acc with errors := acc.errors ++ [p]}
    | .ignored => acc) {}

def Templates.ofWorkspace (ws : Workspace) (excluded : List String) : Result Templates := do
  return ofFiles ws (← ws.sources [] excluded)

structure ResourceContext where
  lines : LineRange
  code : List CodeLine
  skips : List Suppression := []

namespace TemplateFile

variable (t : TemplateFile)

/-- Without braces a mapping starts on the line after its name, so the line before is shown; idle
lines at both ends are not. -/
def linesOf (span : Span) : Result LineRange := do
  if ← startBraced t.lines then return ⟨span.start.line+1,span.stop.line+1⟩
  busyRange t.lines ⟨span.start.line,span.stop.line⟩

def codeOf (r : LineRange) : List CodeLine := within t.lines r

def listedSkips (metadata : Value) (name : String) : Result Value := do
  (← metadata.partOr name (.dict [])).partOr "skip" (.list [])

def metadataSkips (resource : Value) : Result (List Suppression) := do
  let metadata ← resource.part "Metadata"
  if metadata.falsy then return []
  let own ← listedSkips metadata "checkov"
  let platform ← listedSkips metadata "bridgecrew"
  if own.falsy && platform.falsy then return []
  let entries := (← own.elems) ++ (← platform.elems)
  entries.filterMapM fun e => do
    let id ← e.part "id"
    let comment ← e.partOr "comment" (.str SkipComment.noReason)
    return if id.isNull then none else some {id := id.display, comment := comment.display}

def sectionTitles :=
  ["RESOURCES","METADATA","PARAMETERS","RULES","MAPPINGS","CONDITIONS","TRANSFORM","OUTPUTS","GLOBALS"]

def sectionContexts (title : String) (parts : List (Key × Node)) :
    Result (List (String × ResourceContext)) :=
  parts.filterMapM fun (k,n) => do
    match n with
    | .dict _ span =>
      let lines ← t.linesOf span
      let code := t.codeOf lines
      let skips ← if upper title == "RESOURCES" then do
          pure ((SkipComment.ofLines code).map Prod.snd ++ (← metadataSkips n.value))
        else pure []
      return some (k.text,{lines, code, skips})
    | _ => return none

/-- All sections are looked at, so a part whose lines cannot be told is found in any of them. -/
def contexts : Result (List (String × ResourceContext)) := do
  let found ← t.root.fields.filterMapM fun (k,n) => do
    if !sectionTitles.contains (upper k.text) then return none
    match n with
    | .dict fs _ => return some (k.text,← t.sectionContexts k.text fs)
    | _ => return none
  return (found.lookup "Resources").getD []

end TemplateFile

open InfraAudit.Graph (Block)

inductive Section where
  | resources
  | outputs
  | mappings
  | conditions
  | parameters
  | globals
  deriving DecidableEq, Repr

def Section.all : List Section := [.resources,.outputs,.mappings,.conditions,.parameters,.globals]

def Section.title : Section → String
  | .resources => "Resources"
  | .outputs => "Outputs"
  | .mappings => "Mappings"
  | .conditions => "Conditions"
  | .parameters => "Parameters"
  | .globals => "Globals"

def Section.kind : Section → String
  | .resources => "resource"
  | part => lower part.title

structure Stack where
  path : String
  root : Value
  blocks : List (Section × String × Nat) := []
  deriving Inhabited

def Stack.number? (s : Stack) (name : String) : Option Nat :=
  ((s.blocks.filter fun (_,n,_) => n == name).getLast?).map (·.2.2)

def Stack.numberIn? (s : Stack) (part : Section) (name : String) : Option Nat :=
  (s.blocks.find? fun (p,n,_) => p == part && n == name).map (·.2.2)

def resourceAttributes (resource : Value) : Fields :=
  let extra := [("resource_type",resource.getD "Type"),(startLine,resource.getD startLine),
    (stopLine,resource.getD stopLine)]
  update (resource.getD "Properties").fields extra

def resourceBlock (source path name : String) (resource : Value) : Block :=
  let type := (resource.get? "Type").getD "UnTyped"
  let title := type.display ++ "." ++ name
  let attributes := resourceAttributes resource
  Block.make {
    kind := Section.resources.kind, name := title, id := title, path, source
    config := if resource.hasKey "Properties" then .dict attributes else .null
    attributes, metadata := resource.getD "Metadata" }

def plainBlock (source path : String) (part : Section) (name : String) (v : Value) : Block :=
  Block.make {
    kind := part.kind, name, id := part.kind ++ "." ++ name, path, source, config := v
    attributes := v.fields, metadata := v.getD "Metadata" }

def sectionBlocks (source path : String) (root : Value) (part : Section) : List (Section × String × Block) :=
  (root.getD part.title).fields.filterMap fun (name,v) =>
    if !v.isDict then none
    else some (part,name,match part with
      | .resources => resourceBlock source path name v
      | part => plainBlock source path part name v)

def addTemplate (source : String) (acc : Graph × List Stack) (t : TemplateFile) : Graph × List Stack :=
  let (g,ss) := acc
  let root := t.value
  let blocks := Section.all.flatMap (sectionBlocks source t.path root)
  let numbered := (blocks.zipIdx g.vertices.size).map fun ((part,name,_),i) => (part,name,i)
  ({g with vertices := g.vertices ++ (blocks.map (·.2.2)).toArray},ss ++ [{path := t.path, root, blocks := numbered}])

def blocksOf (source : String) (ts : List TemplateFile) : Graph × List Stack := ts.foldl (addTemplate source) ({},[])

/-- A path that leaves the known keys is set as one key with dots; what is no collection stays. -/
def setAlong (new : Value) : List String → Value → Result Value
  | [],v => .ok v
  | [p],.dict fs => .ok (.dict (insert p new fs))
  | [p],.list xs => do
    let i ← Decimal.integer p
    let j := if i < 0 then i+xs.length else i
    if j < 0 || j ≥ xs.length then throw .outOfRange else return .list (xs.set j.toNat new)
  | p::rest,.dict fs =>
    match get? fs p with
    | some v => do return .dict (insert p (← setAlong new rest v) fs)
    | none => .ok (.dict (insert (join "." (p::rest)) new fs))
  | p::rest,.list xs => do
    let i ← Decimal.integer p
    let some v := if i < 0 then none else xs[i.toNat]? | throw .badValue
    return .list (xs.set i.toNat (← setAlong new rest v))
  | _::_,v => .ok v

def valueAlong : List String → Value → Option Value
  | [],v => some v
  | p::rest,.dict fs => (get? fs p).bind (valueAlong rest)
  | p::rest,.list xs => do
    let i ← Decimal.int? p
    if i < 0 then none else (xs[i.toNat]?).bind (valueAlong rest)
  | _,_ => none

/-- Keys that still show a part on the way show the new value, those of a part below no longer
follow. -/
def setInside (b : Block) (key : String) (new : Value) : Result Block := do
  let parts := split key "."
  let attributes := (← setAlong new parts (.dict b.attributes)).fields
  let views := b.views.filter fun v => !startsWith v (key ++ ".")
  let shown := views.filter fun v => startsWith key (v ++ ".")
  let attributes := shown.foldl (fun fs v =>
    match valueAlong (split v ".") (.dict attributes) with
    | some x => insert v x fs
    | none => fs) attributes
  return {b with attributes, views}

variable (g : Graph)

/-- The way of the value is noted if its block and attribute are known. -/
def change (i : Nat) (choosing : Bool) (key : String) (new : Value) (origin : Option Nat) (place : Option String) : Result Graph := do
  let (g,trail) := match origin, place with
    | some o,some p =>
      let (g,t) := g.trailFrom (some o) (some p)
      (g.extendTrail t o (some p),some t)
    | _,_ => (g,none)
  let (b,keys) := (g.vertex i).assign choosing key new
  let b ← setInside b key new
  let numbered := new.items.zipIdx.filterMap fun (v,n) =>
    if Block.isContainer v then some (Graph.dotted key (toString n)) else none
  let b := {b with views := b.views ++ numbered}
  let b := match trail with
    | some t => Graph.markChanged b t keys
    | none => b
  return g.modifyVertex i fun _ => b

def sharedType : String → Value
  | "Function" => "AWS::Serverless::Function"
  | "Api" => "AWS::Serverless::Api"
  | "HttpApi" => "AWS::Serverless::HttpApi"
  | "SimpleTable" => "AWS::Serverless::SimpleTable"
  | _ => .null

/-- A shared setting fills a gap, and a list is added to the one there. -/
def shareSetting (origin : Nat) (key : String) (v : Value) (g : Graph) (i : Nat) : Result Graph := do
  match get? (g.vertex i).attributes key with
  | none => change g i true key v (some origin) (some key)
  | some old =>
    if v.isList then change g i true key (.list ((← old.elems) ++ v.items)) (some origin) (some key)
    else return g

def shareSettings (origin : Nat) : Result Graph := do
  let shared := g.vertex origin
  let related := (List.range g.vertices.size).filter fun i =>
    let b := g.vertex i
    b.kind == Section.resources.kind && b.path == shared.path &&
      (get? b.attributes "resource_type").getD .null == sharedType shared.name
  shared.attributes.foldlM (fun g (key,v) =>
    if endsWith key startLine || endsWith key stopLine then pure g
    else related.foldlM (shareSetting origin key v) g) g

def shareAll : Result Graph :=
  ((List.range g.vertices.size).filter fun i => (g.vertex i).kind == Section.globals.kind).foldlM
    shareSettings g

def lastPart (s : String) : String := (split s ".").getLast?.getD ""

def definitionOf (b : Block) : Value :=
  let type := if b.kind == Section.resources.kind then (get? b.attributes "resource_type").getD .null
    else .str b.kind
  .dict ([("Type",type),("Properties",if b.config.truthy then b.config else .dict [])] ++
    (if b.metadata.truthy then [("Metadata",b.metadata)] else []))

def isShown (b : Block) : Bool :=
  b.kind == Section.parameters.kind || (b.kind == Section.resources.kind && b.condition)

def addField (section_ name : String) (v root : Value) : Value :=
  let fs := (root.getD section_).fields
  if has fs name then root else root.set! section_ (.dict (fs ++ [(name,v)]))

def addDefinition (acc : Fields) (b : Block) : Fields :=
  if !isShown b then acc
  else
    let title := if b.kind == Section.resources.kind then Section.resources.title else Section.parameters.title
    let root := (acc.lookup b.path).getD (.dict [])
    insert b.path (addField title (lastPart b.name) (definitionOf b) root) acc

def definitions : Fields := g.vertices.foldl addDefinition []

def assignAt (new : Value) : List Value → Value → Result Value
  | [],v => .ok v
  | [k],v =>
    match v, k with
    | .dict fs,.str s => .ok (.dict (insert s new fs))
    | .list xs,.int i => if 0 ≤ i && i < xs.length then .ok (.list (xs.set i.toNat new)) else .error .outOfRange
    | _,_ => .error .wrongKind
  | k::rest,v => do
    let inner ← assignAt new rest (← v.item k)
    match v, k with
    | .dict fs,.str s => return .dict (insert s inner fs)
    | .list xs,.int i => return .list (xs.set i.toNat inner)
    | v,_ => return v

def defaultOf (root name : Value) : Result Value := do
  let parameters ← root.partOr Section.parameters.title (.dict [])
  let _ ← parameters.partFields
  if !name.hashable then throw .wrongKind
  match name.text? with
  | some s => (← (← parameters.partOr s (.dict [])).partOr "Properties" (.dict [])).part "Default"
  | none => return .null

def withDefaults (root : Value) : Result Value :=
  (root.allUnder "Ref").foldlM (fun root d => do
    let default ← defaultOf root d.value
    if default.isNull then return root
    assignAt default d.path.dropLast root) root

end InfraAudit.CloudFormation
