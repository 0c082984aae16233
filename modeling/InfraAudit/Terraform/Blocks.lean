import InfraAudit.Terraform.DynamicBlock
import InfraAudit.Terraform.Loading
import InfraAudit.Graph.Basic

namespace InfraAudit.Terraform

open Fields

open InfraAudit.Graph (Block)

structure BlockList where
  blocks : Array Block := #[]
  resourceTypes : List String := []
  deriving Inhabited

abbrev Builder := ExceptT Fault (StateM BlockList)

namespace Builder

def lift {α : Type} (r : Result α) : Builder α :=
  match r with
  | .ok a => pure a
  | .error e => throw e

structure Context where
  ws : Workspace
  tree : ModuleTree
  source : String

variable (cx : Context) (path : String) (blocks : List Value)

def add (b : Block) : Builder Unit := do
  let trails := (cx.tree.trails.lookup (PathName.dirname b.path)).getD []
  let trails := if trails.isEmpty then [[]] else trails
  let copies := trails.flatMap fun trail =>
    let dependency := ModulePath.joinTrail trail
    if dependency.isEmpty then [{b with origin? := some ⟨"",""⟩}]
    else
      let numbers := (cx.tree.numbers.lookup (b.path,(trail.getLast?).getD "")).getD []
      numbers.map fun n => {b with origin? := some ⟨dependency,n⟩}
  modify fun s => {s with blocks := s.blocks ++ copies.toArray}

def entity (kind name id path : String) (config attributes : Value) : Result Block := do
  if !attributes.isDict then throw .noMember
  let m ← ModulePath.read path
  let b := Block.make {
    kind, name, id, config, attributes := attributes.fields, source := cx.source
    path := if path.isEmpty then path else PathName.absolute cx.ws.root m.path
    origin? := some ⟨m.caller,m.number⟩ }
  let resolved := ((get? b.attributes Loader.resolvedKey).getD .null).truthy
  return { b with attributes := if resolved then erase Loader.resolvedKey b.attributes
    else b.attributes }

def entriesOf (v : Value) : Result Fields := do
  let ks ← v.elems
  ks.mapM fun k => do return (k.display,← v.item k)

def addProviders : Builder Unit := do
  for block in blocks do
    for (name,attributes) in (← lift (entriesOf block)) do
      if !((← lift (attributes.has "__start_line__")) && (← lift (attributes.has "__end_line__"))) then return
      let alias_ := attributes.getD "alias"
      let name ← if attributes.isDict && alias_.truthy then
          pure (name ++ "." ++ (← lift alias_.first).display)
        else pure name
      add cx (← lift (entity cx "provider" name "" path block attributes))

def addVariables : Builder Unit := do
  for block in blocks do
    for (name,attributes) in (← lift (entriesOf block)) do
      add cx (← lift (entity cx "variable" name "" path block attributes))

def addLocals : Builder Unit := do
  for block in blocks do
    for (name,value) in (← lift (entriesOf block)) do
      let own := Value.dict [(name,value)]
      add cx (← lift (entity cx "locals" name "" path own own))

def addOutputs : Builder Unit := do
  for block in blocks do
    for (name,value) in (← lift (entriesOf block)) do
      if value.isDict then
        add cx (← lift (entity cx "output" name "" path block (.dict [("value",value.getD "value")])))

def addModules : Builder Unit := do
  for block in blocks do
    for (name,attributes) in (← lift block.pairs) do
      if attributes.isDict then add cx (← lift (entity cx "module" name.display "" path block attributes))

def withProvisioners (attributes : Fields) : Result Fields := do
  let provisioner := (get? attributes "provisioner").getD .null
  if provisioner.falsy then return attributes
  let fs ← (← provisioner.elems).foldlM (fun fs p => do
    let exec (name : String) (fs : Fields) : Result Fields := do
      return update fs (Graph.innerAttributes true true ("provisioner/" ++ name) (← p.field name))
    if (← p.get "local-exec").truthy then exec "local-exec" fs
    else if (← p.get "remote-exec").truthy then exec "remote-exec" fs
    else return fs) attributes
  return erase "provisioner" fs

def addResources : Builder Unit := do
  for block in blocks do
    for (type,resources) in (← lift block.pairs) do
      let type := type.display
      modify fun s => { s with resourceTypes :=
        if s.resourceTypes.contains type then s.resourceTypes else s.resourceTypes ++ [type] }
      for (name,conf) in (← lift resources.pairs) do
        let clean ← lift (singleBackslashes conf)
        let attributes := clean.getD conf
        if attributes.isDict then
          let expanded ← lift (expandDynamic attributes)
          let own ← lift (withProvisioners expanded.fields)
          let own := insert "resource_type" (.list [.str type]) own
          let id := type ++ "." ++ name.display
          let config ← match clean with
            | some _ => do
              let whole ← lift (singleBackslashes block)
              pure (whole.getD block)
            | none => pure (Loader.setPath [.inl type,.inl name.display] (.dict own) block)
          add cx (← lift (entity cx "resource" id id path config (.dict own)))

def addData : Builder Unit := do
  for block in blocks do
    for (type,sources) in (← lift (entriesOf block)) do
      for name in (← lift sources.elems) do
        let id := type ++ "." ++ name.display
        add cx (← lift (entity cx "data" id id path block (← lift (sources.getOr name.display (.dict [])))))

def addSettings : Builder Unit := do
  for block in blocks do add cx (← lift (entity cx "terraform" "" "" path block block))

def addKind (path kind : String) (v : Value) : Builder Unit := do
  let blocks ← lift v.elems
  match kind with
  | "data" => addData cx path blocks
  | "locals" => addLocals cx path blocks
  | "module" => addModules cx path blocks
  | "output" => addOutputs cx path blocks
  | "provider" => addProviders cx path blocks
  | "resource" => addResources cx path blocks
  | "terraform" => addSettings cx path blocks
  | "variable" => addVariables cx path blocks
  | _ => pure ()

def addValues (values : List VariableValue) : Builder Unit := do
  for v in values do
    if Text.contains v.file ".tfvars" then
      let attributes := Value.dict [("default",v.value)]
      add cx (← lift (entity cx "tfvar" v.name "" v.file (.dict [(v.name,attributes)]) attributes))

/-- Of blocks of one type in a file, those before the first fault are kept. -/
def addAll (values : List VariableValue) : Builder Unit := do
  addValues cx values
  for (path,blocks) in cx.tree.definitions do
    for (kind,v) in (← lift (entriesOf blocks)) do
      try addKind cx path kind v catch _ => pure ()

end Builder

def blocksOf (ws : Workspace) (tree : ModuleTree) (source : String) (values : List VariableValue) : Result BlockList :=
  match (Builder.addAll ⟨ws,tree,source⟩ values).run.run {} with
  | (.ok _,s) => .ok s
  | (.error e,_) => .error e

end InfraAudit.Terraform
