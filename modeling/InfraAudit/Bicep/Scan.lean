import InfraAudit.Arm.Checks
import InfraAudit.Policy.Outline
import InfraAudit.Bicep.Rendering
import InfraAudit.Report

namespace InfraAudit.Bicep

open DeclarationFile Policy

def parameterChecks : List Check := [
  .onSecrets (.of "CKV_AZURE_131" "SecureString parameter should not have hardcoded default values" "string"
    fun conf => do
      let decorators ← (← conf.field "decorators").elems
      let secure ← decorators.anyM fun d => do return (← d.field "type").text? == some "secure"
      if !secure then return .unknown
      let default ← conf.get "default"
      if default.falsy then return .passed
      Audit.keep "CKV_AZURE_131_secret" (.str default.display)
      return .failed)]

def scanDeclared (rule : Value → Scan) : Scan := fun conf => do
  if (← conf.field "existing").isTrue then return .unknown
  let version ← conf.field "api_version"
  rule version (← conf.field "config")

def storageAccount : String := "Microsoft.Storage/storageAccounts"

/-- From then on, storage accounts allow only secure transfer by default. -/
def firstSecureYear : Int := 2019

def storageChecks : List Check := [
  .of "CKV_AZURE_36" "Ensure 'Trusted Microsoft Services' is enabled for Storage Account access"
    [storageAccount] (scanDeclared fun _ conf => do
      Audit.inspect "properties/networkAcls/defaultAction"
      let properties ← conf.get "properties"
      if properties.falsy then return .passed
      let access ← properties.get "networkAcls"
      if access.falsy then return .passed
      if (← access.get "defaultAction").text? != some "Deny" then return .passed
      let bypass ← access.get "bypass"
      if bypass.falsy || bypass.text? == some "None" then
        Audit.note "properties/networkAcls/bypass"
        return .failed
      return .passed),
  .onKeys "CKV_AZURE_35" "Ensure default network access rule for Storage Accounts is set to deny"
    [storageAccount] "properties/networkAcls/defaultAction" (scanDeclared fun _ conf =>
      return .passIf (((Arm.find conf "properties/networkAcls/defaultAction").text?.map Text.lower) == some "deny")),
  .of "CKV_AZURE_3" "Ensure that 'supportsHttpsTrafficOnly' is set to 'true'"
    [storageAccount] (scanDeclared fun version conf => do
      Audit.inspect "properties/supportsHttpsTrafficOnly"
      let properties ← conf.get "properties"
      let secure ← if properties.falsy then pure Value.null else properties.get "supportsHttpsTrafficOnly"
      if secure.isTrue then return .passed
      if secure.isFalse then return .failed
      let some year := intOf? (← version.sliced none (some 4)) | return .unknown
      return .passIf (firstSecureYear ≤ year))]

def servers : String := "Microsoft.Sql/servers"

def audited (servers : String) : Draft :=
  let settings := [servers ++ "/auditingSettings"]
  .all [.linked [servers] settings,.is settings "properties.state" "Enabled"]

def policies : List Outline := [
  .of "CKV_AZURE_23" "that 'Auditing' is set to 'On' for SQL servers" "LOGGING" [
    .only [servers,servers ++ "/databases"],
    .any [audited servers,audited (servers ++ "/databases")]]]

def resourceChecks : List Check :=
  Check.firstById (storageChecks ++ Arm.resourceChecks.filter fun c => !policies.any (·.id == c.id))

def linesOf (conf : Value) : Result LineRange := do
  return ⟨← (← conf.field "__start_line__").needInt,← (← conf.field "__end_line__").needInt⟩

namespace DeclarationFile

def seekFilled (lines : List CodeLine) : Nat → Int → Result Unit
  | 0,_ => .error .outOfRange
  | n+1,i => do
    if (Text.strip (← CodeLine.nth lines (i - 1))).isEmpty then seekFilled lines n (i - 1)

def checkPlace (file : DeclarationFile) (conf : Value) : Result Unit := do
  let range ← linesOf conf
  let _ ← conf.field "type"
  seekFilled file.lines (2*file.lines.length+2) range.first
  seekFilled file.lines (2*file.lines.length+2) range.last

def checkPlaces (file : DeclarationFile) : Result Unit := do
  for (heading,confs) in ← file.tree.pairs do
    if heading == .str BlockKind.parameter.heading || heading == .str BlockKind.resource.heading then
      for conf in ← confs.valuesOf do file.checkPlace conf

end DeclarationFile

structure Declared where
  file : DeclarationFile
  shown : String
  name : String
  conf : Value

def Declared.suppressed (skips : List Suppression) (f : Finding) : Finding :=
  match skips.reverse.find? (·.id == f.check.id) with
  | some s => {f with verdict := .skipped, keys := [], comment := s.comment}
  | none => f

def Declared.record (d : Declared) (lines : LineRange) (code : List CodeLine) (conf : Value) (id : String) (f : Finding) :
    Record :=
  f.toRecord d.shown d.file.path lines (f.maskedCode conf code) id

def Declared.judge (d : Declared) (checks : List Check) (sel : Selection) (rep : Report) : Result Report := do
  let type ← d.conf.field "type"
  let known ← Check.ofType checks type
  let (found,conf) ← Check.runAll type.display [] d.conf (known.filter (sel.runsId ·.id))
  let id := type.display ++ "." ++ d.name
  if found.isEmpty then
    if (d.conf.getD "existing").isFalse then
      return rep.addExtra {file := d.shown, absoluteFile := d.file.path, resource := id}
    return rep
  let lines ← linesOf d.conf
  let code := CodeLine.within d.file.lines lines
  let skips := (SkipComment.ofLines code).map Prod.snd
  let rep := rep.addResource (d.file.path ++ ":" ++ id)
  return rep.addAll (found.map fun f => d.record lines code conf id (suppressed skips f))

def judgeKind (g : Graph) (sel : Selection) (file : DeclarationFile) (shown : String) (rep : Report)
    (kind : BlockKind) (checks : List Check) : Result Report :=
  (g.vertices.toList.filter fun b => b.path == file.path && b.kind == kind.name).foldlM (fun rep b =>
    Declared.judge ⟨file,shown,b.name,b.config⟩ checks sel rep) rep

def policyRecords (g : Graph) (sel : Selection) (files : List DeclarationFile) : Result (List Record) := do
  let (judged,net) := Policy.applyAll (policies.filter fun o => sel.runsId o.id) (.ofGraph g)
  let one (j : Judgement) (row : Verdict × Nat) : Result Record := do
    let block := net.attributes row.2
    let path := ((block.lookup "file_path_").getD .null).display
    let some file := files.find? (·.path == path) | throw .missingKey
    let lines ← linesOf (.dict block)
    return { checkId := j.policy.id, checkName := j.policy.name, verdict := row.1, keys := j.keys.map .str
             code := CodeLine.within file.lines lines, file := path, absoluteFile := path, lines
             resource := ((block.lookup "id_").getD .null).text? }
  let records ← judged.mapM fun j => j.verdicts.mapM (one j)
  return records.flatten

variable (ws : Workspace)

def report (sel : Selection) (paths : List String) : Result Report := do
  let (files,unread) := ofPaths ws paths
  let rep : Report := ({framework := "bicep"} : Report).addParsingErrors (unread.map PathName.normalize)
  for f in files do f.checkPlaces
  let g ← graphOf files true
  let rep ← files.foldlM (fun rep file => do
    let shown ← ws.shown file.path
    let rep ← judgeKind g sel file shown rep .parameter parameterChecks
    judgeKind g sel file shown rep .resource resourceChecks) rep
  return rep.addAll (← policyRecords g sel files)

def scanDirectory (sel : Selection) : Result Report := report ws sel (allPaths ws)

def scanFiles (sel : Selection) (files : List String) : Result Report :=
  report ws sel ((files.filter (Text.endsWith · extension)).eraseDups)

def graphOfWorkspace (excluded : List String) (rendered : Bool) : Result Graph := do
  graphOf (ofPaths ws (← visiblePaths ws excluded)).1 rendered

end InfraAudit.Bicep
