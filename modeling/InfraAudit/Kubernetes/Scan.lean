import InfraAudit.Graph.Basic
import InfraAudit.Kubernetes.Manifest
import InfraAudit.Kubernetes.Checks
import InfraAudit.Report

namespace InfraAudit.Kubernetes

open InfraAudit.Graph (Block)

def blockOf (path : String) (object : Value) : Result Block := do
  let id := ((← objectId? object)).getD ""
  return Block.make {
    kind := "resource", name := id, id, path, source := "Kubernetes", config := object
    attributes := Fields.insert "resource_type" (object.getD "kind") object.fields }

def isNamed (object : Value) : Result Bool := do
  let metadata ← object.get "metadata"
  if isInvalid object then return false
  return (metadata.getD "name").truthy

/-- An object without a name gives up its position. -/
def nameObject (path : String) (object : Value) : Result (Visit Block) := do
  if ← isNamed object then return {lost := false, found := [← blockOf path object]}
  return {lost := true}

def blocks (m : Manifest) : Result (List Block × Manifest) := do
  let objects ← unfoldLists m.objects
  let (found,kept) ← sweep (nameObject m.path) (objects.length+1) 0 objects
  return (found,{m with objects := kept})

def graphOf (ms : List Manifest) : Result Graph := do
  let rows ← ms.mapM blocks
  return {vertices := (rows.flatMap Prod.fst).toArray}

def isCheckWord (w : String) : Bool := Text.contains w "CKV_" || Text.contains w "BC_"

def inNamespaces (object : Value) (words : List String) : Result Bool := do
  for key in ["metadata","parent_metadata"] do
    if let some metadata := object.get? key then
      if ← metadata.has "namespace" then return (← metadata.field "namespace").isOneOf words
  return words.contains "default"

def applies (sel : Selection) (object : Value) (c : Check) : Result Bool := do
  let spaces := sel.checks.filter (!isCheckWord ·)
  if !sel.checks.isEmpty || sel.runFrom.isSome then
    if !sel.checks.any isCheckWord && sel.runFrom.isNone then inNamespaces object spaces
    else if sel.runsId c.id then
      if spaces.isEmpty then return true else inNamespaces object spaces
    else return false
  else if !sel.skipChecks.isEmpty || sel.skipUpTo.isSome then
    let skipped ← inNamespaces object sel.skipChecks
    return sel.runsId c.id && !skipped
  else return true

structure Audited where
  ws : Workspace
  selection : Selection
  contexts : List (String × List (String × ObjectContext))

def Audited.context (a : Audited) (file : String) (id : Option String) : Result ObjectContext :=
  (id.bind fun id => (a.contexts.lookup file).bind (·.lookup id)).elim (.error .missingKey) .ok

def Audited.judge (a : Audited) (absoluteFile : String) (rep : Report) (object : Value) : Result Report := do
  if (← object.get "kind") == "Kustomization" then return rep
  let (skips,object) ← suppressions object
  let kind ← object.field "kind"
  let known ← Check.ofType checks kind
  let (found,_) ← Check.runAll kind.display skips object (← known.filterM (applies a.selection object))
  let id ← objectId? object
  let file ← a.ws.shown absoluteFile
  if found.isEmpty then return rep.addExtra {file, absoluteFile, resource := id}
  let c ← a.context absoluteFile id
  return rep.addAll (found.map fun f =>
    {f.toRecord file absoluteFile c.lines c.code (id.getD "") with evaluations := .dict []})

variable (ws : Workspace)

def report (selection : Selection) (ms : List Manifest) : Result Report := do
  let contexts ← ms.mapM fun m => do return (m.path,← m.contexts)
  let rows ← ms.mapM blocks
  let a : Audited := {ws, selection, contexts}
  let rep := (rows.flatMap Prod.fst).foldl (fun rep b => rep.addResource (b.path ++ ":" ++ b.id))
    ({framework := "kubernetes"} : Report)
  (rows.map Prod.snd).foldlM (fun rep m => m.objects.foldlM (a.judge m.path) rep) rep

def scanDirectory (sel : Selection) : Result Report := do
  report ws sel (← Manifest.ofWorkspace ws sel.excludedPaths)

def scanFiles (sel : Selection) (files : List String) : Result Report := report ws sel (Manifest.ofFiles ws files)

end InfraAudit.Kubernetes
