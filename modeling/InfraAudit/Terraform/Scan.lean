import InfraAudit.Terraform.Context
import InfraAudit.Report.Enrichment
import InfraAudit.Terraform.Plan

namespace InfraAudit.Terraform

open PathName Text RuleKind

structure Audited where
  ws : Workspace
  root : String
  graph : Graph
  table : BlockTable
  selection : Selection

namespace Audited

def ofGraph (ws : Workspace) (root : String) (selection : Selection) (graph : Graph) : Audited :=
  {ws, root, graph, table := .ofGraph ws graph, selection}

variable (a : Audited)

def shown (file : String) : Result String := do
  return "/" ++ (← relativeTo a.ws.root file a.root)

def crumbs (file name : String) : Result Fields := do
  let found ← a.graph.vertices.toList.filterM fun b => do
    return !b.breadcrumbs.isEmpty && b.name == name && b.kind != "tfvar" && a.ws.isFile b.path &&
      (← a.shown b.path) == file
  return (found.getLast?.map (·.breadcrumbs)).getD []

def callName? (key : String) : Option String :=
  a.table.findSome? fun (_,blocks) => blocks.findSome? fun (kind,block) =>
    if kind == .module then
      block.fields.findSome? fun (name,conf) =>
        if (conf.getD Loader.resolvedKey).items.any (· == .str key) then some ("module." ++ name) else none
    else none

structure Call where
  name : String
  file : String
  lines : Option LineRange

def call? (cs : Contexts) (key : String) : Result (Option Call) := do
  match (ModulePath.stripCaller key).2, a.callName? key with
  | some caller,some name =>
    let file := ((cutAtLast caller "#").map Prod.fst).getD caller
    let context := cs.block? file ⟨.module,split name "."⟩
    return some {name, file := ← a.shown file, lines := context.map (·.lines)}
  | _,_ => return none

def tagsOf (type : String) (conf : Value) : Value :=
  match cutAt type "_" with
  | ("aws",some _) | ("azure",some _) => forceDict (conf.getD "tags")
  | ("gcp",some _) => forceDict (conf.getD "labels")
  | _ => .null

end Audited

namespace Audited

variable (a : Audited)

def judgeBlock (key : String) (kind : RuleKind) (block : Value) (acc : Contexts × Report) :
    Result (Contexts × Report) := do
  let (cs,rep) := acc
  let (path,_) ← kind.locate block
  let call ← a.call? cs key
  let id := (call.map (·.name ++ ".")).getD "" ++ join "." path
  let context := (cs.block? key ⟨kind,path⟩).getD default
  let cs := if kind == .module then cs.pushSkips key context.skips else cs
  let e ← Entity.ofValue kind block
  let (found,conf) ← e.findings kind.checks a.selection context.skips
  let absoluteFile := (ModulePath.stripCaller key).1
  let file ← a.shown absoluteFile
  if found.isEmpty then return (cs,if kind == .resource then rep.addExtra {file, absoluteFile, resource := id} else rep)
  let crumbs ← a.crumbs file (e.type ++ "." ++ e.name)
  let tags := tagsOf e.type conf
  let records := found.map fun f => Record.withBreadcrumbs
    { f.toRecord file absoluteFile context.lines (f.maskedCode conf context.code) id with
      tags
      callerFile := call.map (·.file)
      callerLines := call.bind (·.lines) } crumbs
  return (cs,rep.addAll records)

def judgeBlocks (cs : Contexts) (rep : Report) : Result (Contexts × Report) :=
  a.table.foldlM (fun acc (key,blocks) =>
    all.foldlM (fun acc kind =>
      (blocks.filter (·.1 == kind)).foldlM (fun acc (_,block) => a.judgeBlock key kind block acc) acc) acc)
    (cs,rep)

def locate (cs : Contexts) (block : Fields) : Result (Option Located) := do
  let text := block.textAt
  let absoluteFile := text "file_path_"
  let name := text "block_name_"
  let found : Option BlockContext := do
    let kind ← ofName? (text "block_type_")
    (← cs.ofFile? absoluteFile).lookup ⟨kind,split name "."⟩
  let some c := found | return none
  let file ← a.shown absoluteFile
  return some {
    name, absoluteFile, file, lines := c.lines, code := c.code, skips := c.skips
    crumbs := ← a.crumbs file name }

def report (errors : List String) : Result Report := do
  let rep : Report := {framework := "terraform"}
  let rep := a.graph.vertices.foldl (fun rep b =>
    if b.kind == "resource" then rep.addResource (b.path ++ ":" ++ b.id) else rep) rep
  let cs ← Contexts.ofTable a.ws a.table
  let (cs,rep) ← a.judgeBlocks cs rep
  let rep := rep.addParsingErrors errors
  return (rep.addAll (← policyRecords a.graph a.selection (a.locate cs))).distinct

end Audited

def scanDirectory (ws : Workspace) (sel : Selection) : Result Report := do
  let p ← Project.ofDirectory ws sel.excludedPaths (sel.varFiles.map (absolute ws.root))
  (Audited.ofGraph ws ws.root sel (← p.graph "Terraform" true)).report p.loading.errors

def scanFiles (ws : Workspace) (sel : Selection) (files : List String) : Result Report := do
  if files.isEmpty then throw (.failure "Root directory was not specified, files were not specified")
  let files := files.map (absolute ws.root)
  let p ← Project.ofFiles ws files
  let root := dirname (commonStart files)
  (Audited.ofGraph ws root sel (← p.graph "Terraform" true)).report p.loading.errors

def lifecycleChecks := ["CKV_AWS_217","CKV_AWS_233","CKV_AWS_237","CKV_GCP_82"]

structure PlanFile where
  path : String
  lines : List CodeLine
  blocks : List Value

structure PlanPlace where
  lines : LineRange
  code : List CodeLine
  address : Option String

/-- The first block of a type and name. -/
def PlanFile.first? (p : PlanFile) (type name : String) : Option Value :=
  p.blocks.findSome? fun b => (b.get? type).bind (·.get? name)

def PlanFile.place (p : PlanFile) : List String → Result PlanPlace
  | [type,name] => do
    let some conf := p.first? type name | throw .noMember
    let r : LineRange := ⟨← (← conf.firstOf Plan.firstLine).needInt,← (← conf.firstOf Plan.lastLine).needInt⟩
    return {
      lines := r
      code := sliceList p.lines (some r.first) (some r.last)
      address := (conf.getD Plan.addressKey).text? }
  | _ => throw .noMember

def PlanFile.records (p : PlanFile) (ws : Workspace) (checks : List Check) (sel : Selection) : Result (List Record) := do
  let file ← ws.shown p.path
  let all ← p.blocks.mapM fun block => do
    let (path,_) ← resource.locate block
    let at_ ← p.place path
    let e ← Entity.ofValue .resource block
    let (found,_) ← e.findings checks sel []
    return (found.filter fun f => !lifecycleChecks.contains f.check.id).map fun f =>
      {f.toRecord file p.path at_.lines at_.code (join "." path) with address := at_.address}
  return all.flatten

variable (ws : Workspace)

def planFiles (excluded : List String) : Result (List String × List String) := do
  let named := (← ws.sources [] excluded).filter fun p => extension p == ".json"
  let all := named.map fun path =>
    match Json.read (((ws.file? path).map (·.text)).getD "") with
    | .ok v => ((if (v.getD "terraform_version").truthy then [path] else []),[])
    | .error _ => ([],[basename path])
  return (all.flatMap Prod.fst,all.flatMap Prod.snd)

def scanPlans (checks : List Check) (sel : Selection) (files errors : List String) : Result Report := do
  let all ← files.mapM fun path => do
    let text := unifyLineEnds (((ws.file? path).map (·.text)).getD "")
    match Plan.read text with
    | .error _ => return ([],[path])
    | .ok none => return ([],[])
    | .ok (some plan) => return ([{path, lines := CodeLine.ofText text, blocks := ← Plan.blocks plan}],[])
  let plans : List PlanFile := all.flatMap Prod.fst
  let errors := errors ++ all.flatMap Prod.snd
  let definitions := plans.map fun p => (p.path,Value.dict [("resource",.list p.blocks)])
  let _ ← plans.mapM fun p => p.blocks.mapM fun b => do
    let (path,_) ← resource.locate b
    p.place path
  let project : Project := {ws, definitions, loading := {}}
  let graph ← project.graph "Terraform" false
  let records ← plans.mapM (·.records ws checks sel)
  let rep := (({framework := "terraform_plan"} : Report).addAll records.flatten).addParsingErrors errors.eraseDups
  if plans.isEmpty then return rep
  let locate (block : Fields) : Result (Option Located) := do
    let text := block.textAt
    let absoluteFile := text "file_path_"
    let name := text "block_name_"
    let some p := plans.find? (·.path == absoluteFile) | throw .wrongKind
    let at_ ← p.place (split name ".")
    return some {
      name, absoluteFile, file := ← ws.shown absoluteFile, lines := at_.lines, code := at_.code
      address := at_.address }
  return rep.addAll (← policyRecords graph sel locate)

def scanPlanDirectory (sel : Selection) : Result Report := do
  let (files,errors) ← planFiles ws sel.excludedPaths
  scanPlans ws resource.checks sel files errors

def scanPlanFiles (sel : Selection) (files : List String) : Result Report :=
  scanPlans ws resource.checks sel (files.filter fun f => endsWith f ".json") []

def enrichments : Result Enrichments := do
  let loading ← Project.loadAll ws [] [] ".external_modules"
  let raw := loading.keys.map fun (k,f) => (k,(loading.files.lookup f).getD .null)
  let parts ← raw.mapM fun (key,definition) => do
    let path := (ModulePath.stripCaller key).1
    let blocks := (definition.fields.filterMap fun (k,bs) => (ofName? k).map fun kind => (kind,bs)).flatMap
      fun (kind,bs) => bs.items.map fun b => (kind,b)
    let context ← FileContext.ofBlocks ((ws.file? path).getD {text := ""}) blocks
    let file ← relativeTo ws.root path ws.root
    return context.map fun (k,c) =>
      (join "." k.path,({code := c.code, lines := c.lines, file, skips := c.skips} : Enrichment))
  return parts.flatten.foldl (fun acc (k,e) => Loader.insertPair k e acc) []

end InfraAudit.Terraform
