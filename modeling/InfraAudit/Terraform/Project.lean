import InfraAudit.Terraform.Rendering

namespace InfraAudit.Terraform

structure Project where
  ws : Workspace
  definitions : Fields
  loading : Loading
  deriving Inhabited

namespace Project

variable (ws : Workspace)

def countCalls : Nat :=
  ws.files.foldl (fun n (_,f) => n+((f.tree.getD .null).getD "module").items.foldl
    (fun n b => n+b.entries.length) 0) 0

def prune (modulesFolder : String) (excluded : List String) (dir : String) (names : List String) :
    Result (List String) := do
  return (← Workspace.kept dir excluded [] names).filter (· != modulesFolder)

def loadAll (excluded varFiles : List String) (modulesFolder : String) : Result Loading := do
  let stops ← ws.walk (prune modulesFolder excluded)
  let fuel := 4*(countCalls ws+2)
  let run : Loader Unit := stops.forM fun s => Loader.loadDirectory ws fuel s.dir varFiles excluded ws.root []
  match run.run.run {} with
  | (.ok _,s) => return {s with keys := s.keys.filter fun (k,_) => !s.called.contains k}
  | (.error e,_) => throw e

def ofDirectory (excluded varFiles : List String) (modulesFolder : String := ".external_modules") : Result Project := do
  let loading ← loadAll ws excluded varFiles modulesFolder
  let raw := loading.keys.map fun (k,f) => (k,(loading.files.lookup f).getD .null)
  let v ← asJson (canonical (.dict raw))
  return {ws, definitions := v.fields, loading}

def ofFiles (paths : List String) : Result Project := do
  let (definitions,errors) ← paths.foldlM (fun (acc : Fields × List String) path => do
    if !Text.endsWith path ".tf" then return acc
    match Loader.readFile ws path true with
    | .error _ => return (acc.1,if acc.2.contains path then acc.2 else acc.2 ++ [path])
    | .ok v =>
      if v.falsy then return acc
      return (Fields.insert path (canonical (← asJson v)) acc.1,acc.2)) ([],[])
  return {ws, definitions, loading := {errors}}

def configuration (p : Project) (source : String) : Result (Configuration × Array Graph.Block) := do
  let tree ← ModuleTree.of p.definitions
  let list ← blocksOf p.ws tree source p.loading.values
  let c : Configuration := {
    ws := p.ws, tree, numbers := p.loading.numbers, sources := p.loading.sources
    resourceTypes := list.resourceTypes }
  return (c,list.blocks)

def graph (p : Project) (source : String) (render : Bool) : Result Graph := do
  let (c,blocks) ← p.configuration source
  let g ← c.graph blocks
  if render then Rendering.render c.resourceTypes g else return g

end Project

end InfraAudit.Terraform
