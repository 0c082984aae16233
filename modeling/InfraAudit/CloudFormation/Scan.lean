import InfraAudit.CloudFormation.Checks
import InfraAudit.CloudFormation.Rendering
import InfraAudit.Policy.Outline

namespace InfraAudit.CloudFormation

open Policy (Outline Draft)

def policies : List Outline :=
  let apis := ["AWS::AppSync::GraphQLApi"]
  [.of "CKV2_AWS_33" "AppSync is protected by WAF" "APPLICATION_SECURITY" [
    .only apis,.linked apis "AWS::WAFv2::WebACLAssociation"]]

def plainText (v : Value) : Result String :=
  match v with
  | .dict [] => .error .exhausted
  | .dict ((function,x) :: _) =>
    match x with
    | .list _ =>
      if Text.contains function "Join" then do
        let sep ← x.index 0
        return Text.join sep.display ((← (← x.index 1).elems).map Value.display)
      else do return (← x.index 0).display
    | x => .ok x.display
  | v => .ok v.display

def tagsIn (tags : Value) : Result Value :=
  match tags with
  | .list xs => do
    let rows ← xs.mapM fun t => do return (← plainText (← t.field "Key"),Value.str (← plainText (← t.field "Value")))
    return .dict (Fields.ofPairs rows)
  | .dict fs => do
    let rows ← (fs.filter fun (k,_) => k != Template.startLine && k != Template.stopLine).mapM fun (k,v) => do
      return (k,Value.str (← plainText v))
    return .dict rows
  | _ => .ok .null

def tagsOf (resource : Value) : Value :=
  let tags := (resource.getD "Properties").getD "Tags"
  if tags.falsy then .null
  else (tagsIn tags).toOption.getD .null

structure Audited where
  ws : Workspace
  selection : Selection
  graph : Graph
  contexts : List (String × List (String × ResourceContext))

namespace Audited

variable (a : Audited)

def context? (file name : String) : Result ResourceContext :=
  ((a.contexts.lookup file).bind (·.lookup name)).elim (.error .missingKey) .ok

def crumbs (file resource : String) : Fields :=
  ((a.graph.vertices.toList.filter fun b =>
    isShown b && b.path == file && b.name == resource && !b.breadcrumbs.isEmpty).getLast?.map (·.breadcrumbs)).getD []

def judge (absoluteFile name : String) (resource : Value) (rep : Report) : Result Report := do
  let type := resource.getD "Type"
  let id := type.display ++ "." ++ name
  let c ← a.context? absoluteFile name
  if c.code.isEmpty then return rep
  let known ← Check.ofType checks type
  let file ← a.ws.shown absoluteFile
  let (found,conf) ← Check.runAll type.display c.skips resource (known.filter (a.selection.runsId ·.id))
  if found.isEmpty then return rep.addExtra {file, absoluteFile, resource := id}
  return rep.addAll (found.map fun f => Record.withBreadcrumbs
    { f.toRecord file absoluteFile c.lines (f.maskedCode conf c.code) id with
      evaluations := .dict []
      tags := tagsOf conf } (a.crumbs absoluteFile id))

def policyRecord (j : Policy.Judgement) (verdict : Verdict) (block : Fields) : Result (Option Record) := do
  let text := block.textAt
  if text "block_type_" != Section.resources.kind then return none
  let absoluteFile := text "file_path_"
  let c ← a.context? absoluteFile (((Text.split (text "block_name_") ".").getLast?).getD "")
  let tags := (block.lookup "Tags").getD .null
  return some (({
    checkId := j.policy.id
    checkName := j.policy.name
    verdict
    keys := j.keys.map .str
    entity := (block.lookup "config_").getD .null
    code := c.code
    file := ← a.ws.shown absoluteFile
    absoluteFile
    lines := c.lines
    resource := text "id_"
    evaluations := .dict []
    tags := ← if tags.isDict then tagsIn tags else pure .null : Record }).withBreadcrumbs
      (a.crumbs absoluteFile (text "id_")))

def policyRecords : Result (List Record) := do
  let (judged,net) := Policy.applyAll (policies.filter fun o => a.selection.runsId o.id) (.ofGraph a.graph)
  let rows ← judged.mapM fun j => j.verdicts.mapM fun (v,i) => a.policyRecord j v (net.attributes i)
  return rows.flatten.filterMap id

end Audited

variable (ws : Workspace)

def report (selection : Selection) (ts : Templates) : Result Report := do
  let contexts ← ts.files.mapM fun t => do return (t.path,← t.contexts)
  let graph ← graphOf ts.files true
  let a : Audited := {ws, selection, graph, contexts}
  let rep := ({framework := "cloudformation"} : Report).addParsingErrors ts.errors
  let rep := graph.vertices.foldl (fun rep b =>
    if b.kind == Section.resources.kind then rep.addResource (b.path ++ ":" ++ b.id) else rep) rep
  let roots ← (definitions graph).mapM fun (path,root) => do return (path,← withDefaults root)
  let rep ← roots.foldlM (fun rep (path,root) =>
    (root.getD Section.resources.title).fields.foldlM (fun rep (name,r) => a.judge path name r rep) rep) rep
  return rep.addAll (← a.policyRecords)

def scanDirectory (sel : Selection) : Result Report := do
  report ws sel (← Templates.ofWorkspace ws sel.excludedPaths)

def scanFiles (sel : Selection) (files : List String) : Result Report := report ws sel (Templates.ofFiles ws files)

end InfraAudit.CloudFormation
