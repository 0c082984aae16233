import InfraAudit.Arm.Template
import InfraAudit.Arm.Checks
import InfraAudit.Report

namespace InfraAudit.Arm

open Value (Trail valueAt replaceAt)

def withParent (name type : Value) (v : Value) : Value := (v.set! "parent_name" name).set! "parent_type" type

variable (resource : Value)

def nestedPlaces : Result (List Trail) := do
  let places ← (resource.allUnder "resources").mapM fun d => do
    if d.value.falsy then return []
    let items ← d.value.enumerate
    return (items.filter fun (_,x) => x.isDict).map fun (i,_) => d.path ++ [.int i]
  return places.flatten

def unnest : Result (Value × List Value) := do
  if resource.isDict && resource.hasKey "parent_name" then return (resource,[])
  let places ← nestedPlaces resource
  if places.isEmpty then return (resource,[])
  let name ← resource.partOr "name" ""
  let type ← resource.partOr "type" ""
  let marked ← places.foldlM (fun r place => do
    return replaceAt (withParent name type (← valueAt r place)) place r) resource
  return (marked,← places.mapM (valueAt marked))

def allResources (root : Value) : Result (List Value) := do
  let rows ← (← (← root.field "resources").elems).mapM unnest
  return rows.map Prod.fst ++ rows.flatMap Prod.snd

def resourceId? : Result (Option String) := do
  if !(← resource.has "type") then return none
  if !(← resource.has "name") then return none
  return some ((← resource.field "type").display ++ "." ++ (← resource.field "name").display)

def resourceName? : Result (Option String) := do
  if !(← resource.has "name") then return none
  return some (← resource.field "name").display

def numbersUnder (key : String) (v : Value) : List Int := (v.allUnder key).filterMap (·.value.int?)

def linesOf? (part : Value) : Option LineRange :=
  match numbersUnder "__startline__" part, numbersUnder "__endline__" part with
  | first::firsts,last :: lasts => some ⟨firsts.foldl min first,lasts.foldl max last⟩
  | _,_ => none

def skipPattern := Text.Pattern.of "([A-Z_\\d]+)(:[^\\n]+)?"

def suppression? (entry : Value) : Option Suppression :=
  (skipPattern.search? entry.display).map fun m =>
    {id := (m.group? 1).getD "", comment := ((m.group? 2).map (Text.drop · 1)).getD "No comment provided"}

def suppressions (part : Value) : Result (List Suppression) := do
  let some metadata ← part.reach? ["metadata"] | return []
  if !(← metadata.has "checkov") then return []
  return (← (← metadata.field "checkov").listed.elems).filterMap suppression?

structure Audited where
  selection : Selection
  template : DeploymentTemplate
  file : String

namespace Audited

variable (a : Audited)

def findings (checks : List Check) (part : Value) : Result (List Finding × Value) := do
  let skips ← suppressions part
  let type := (← part.partOr "type" "").display
  Check.runAll type skips part ((Check.naming checks type).filter (a.selection.runsId ·.id))

def record (lines : LineRange) (code : List CodeLine) (resource : Option String) (f : Finding) : Record :=
  {f.toRecord a.file a.template.path lines code resource with evaluations := .dict []}

def judgeResource (rep : Report) (resource : Value) : Result Report := do
  let id ← resourceId? resource
  let rep := rep.addResource (a.file ++ ":" ++ id.getD "None")
  let _ ← resourceName? resource
  let some lines := linesOf? resource | return rep
  let code := CodeLine.within a.template.lines lines
  if code.isEmpty then return rep
  let (found,_) ← a.findings resourceChecks resource
  if found.isEmpty then return rep.addExtra {file := a.file, absoluteFile := a.template.path, resource := id}
  return rep.addAll (found.map (a.record lines code id))

def judgeParameter (rep : Report) (name : String) (parameter : Value) : Result Report := do
  let some lines := linesOf? parameter | return rep
  let code := CodeLine.within a.template.lines lines
  if code.isEmpty then return rep
  let (found,conf) ← a.findings parameterChecks parameter
  return rep.addAll (found.map fun f => a.record lines (f.maskedCode conf code) ("parameter." ++ name) f)

def judge (rep : Report) : Result Report := do
  let root ← withDefaults a.template.root
  let rep ← (← allResources root).foldlM a.judgeResource rep
  let some ps := root.get? "parameters" | return rep
  (← ps.partFields).foldlM (fun rep (name,p) => a.judgeParameter rep name p) rep

end Audited

def report (selection : Selection) (shown : String → Result String) (ts : List DeploymentTemplate) : Result Report :=
  ts.foldlM (fun rep template => do
    Audited.judge {selection, template, file := ← shown template.path} rep) {framework := "arm"}

def scanDirectory (ws : Workspace) (sel : Selection) : Result Report := do
  let files ← ws.sources [] sel.excludedPaths
  report sel ws.shown (DeploymentTemplate.ofFiles ws (files.filter fun p => PathName.extension p == ".json"))

def scanFiles (ws : Workspace) (sel : Selection) (files : List String) : Result Report :=
  report sel .ok (DeploymentTemplate.ofFiles ws files)

end InfraAudit.Arm
