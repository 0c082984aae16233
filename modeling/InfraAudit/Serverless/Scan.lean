import InfraAudit.CloudFormation.Scan
import InfraAudit.Serverless.Variables

namespace InfraAudit.Serverless

open Template CloudFormation Text

structure Service where
  path : String
  lines : List CodeLine
  root : Value
  deriving Inhabited

def isPart (v : Value) : Bool := v.isDict && v.hasKey startLine

namespace Service

def fileNames := ["serverless.yml","serverless.yaml"]

def providers := ["aws"]

def isKnown (root : Value) : Result Bool := do
  let some provider ← root.reach? ["provider"] | return false
  if provider.isDict then return providers.contains (lower (← (← provider.part "name").partText))
  match provider with
  | .str s => return providers.contains s
  | _ => return true

variable (ws : Workspace)

def read? (path text : String) : Result (Option Service) := do
  let text := unifyLineEnds text
  if !contains text "provider" then return none
  let .ok node := readYaml text | return none
  let root := node.value
  if root.falsy then return none
  if !(← isKnown root) then return none
  return some {path, lines := CodeLine.ofText text, root := ← withVariables {ws, directory := PathName.dirname path} root}

def ofFiles (paths : List String) : Result (List Service) :=
  (paths.filter fun p => fileNames.contains (PathName.basename p)).eraseDups.filterMapM fun p =>
    ((ws.file? p).map fun f => read? ws p f.text).getD (.ok none)

def provider (s : Service) : Value := s.root.getD "provider"

def providerName (s : Service) : Value :=
  match s.provider with
  | .str name => .str name
  | v => if isPart v then v.getD "name" else .null

def inherited : List (String × String) :=
  [("iamRoleStatements","iamRoleStatements"),("environment","environment"),("stackTags","tags"),
    ("runtime","runtime"),("timeout","timeout"),("memorySize","memorySize")]

def joined (own given : Value) : Value :=
  match own, given with
  | .list xs,.list ys => .list (xs ++ ys)
  | .dict fs,.dict gs => .dict (Fields.update fs gs)
  | own,_ => own

def enriched (s : Service) (function : Value) : Value :=
  if !isPart s.provider then function
  else inherited.foldl (fun f (source,target) =>
    let given := s.provider.getD source
    if given.falsy then f
    else
      let own := f.getD target
      f.set! target (if own.truthy then joined own given else given)) function

def linesOf? (part : Value) : Option LineRange := do
  let first ← (part.getD startLine).int?
  let last ← (part.getD stopLine).int?
  return ⟨first - 1,last - 1⟩

end Service

def accessKey := Pattern.of "(?<![A-Z0-9])[A-Z0-9]\x7b20\x7d(?![A-Z0-9])"

def secretKey := Pattern.of "(?<![A-Za-z0-9/+=])[A-Za-z0-9/+=]\x7b40\x7d(?![A-Za-z0-9/+=])"

def noKeys (id : String) : Scan := fun conf => do
  let environment ← conf.part "environment"
  let texts := environment.fields.filterMap fun (_,v) => v.text?
  let found := texts.zipIdx.filter fun (s,_) => accessKey.matches? s || secretKey.matches? s
  for (s,i) in found do Audit.keep s!"{id}_secret_{i}" (.str s)
  return .passIf found.isEmpty

def allowsAll (statement : Value) : Result Bool := do
  if !(← statement.has "Action") then return false
  if (← statement.part "Effect") != "Allow" then return false
  if !(← (← statement.field "Action").has "*") then return false
  (← statement.field "Resource").has "*"

def noAdministrators : Scan := fun conf => do
  let .list statements ← conf.part "iamRoleStatements" | return .passed
  Audit.failIfAny statements allowsAll

def noWildcardActions : Scan := fun conf => do
  let statements ← conf.part "iamRoleStatements"
  if statements.falsy then return .passed
  for s in ← statements.elems do
    if !s.isDict then return .unknown
    if let some action := s.get? "Action" then
      if ← action.has "*" then
        if s.getD "Effect" == "Allow" then return .failed
  return .passed

def functionChecks : List Check := Check.under "CKV_AWS_" "serverless_" [
  .onSecrets (.of "41" "no hard coded AWS access key and secret key exists in provider" "aws" (noKeys "CKV_AWS_41")),
  .of "1" "IAM policies that allow full \"*-*\" administrative privileges are not created" "aws" noAdministrators,
  .of "49" "no IAM policies documents allow \"*\" as a statement's actions" "aws" noWildcardActions]

structure Audited where
  selection : Selection
  service : Service
  file : String

namespace Audited

variable (a : Audited) (rep : Report)

def record (lines : LineRange) (code : List CodeLine) (resource : String) (conf : Value) (f : Finding) : Record :=
  { f.toRecord a.file a.service.path lines (f.maskedCode conf code) resource with
    evaluations := .dict []
    tags := tagsOf conf }

def trimmed (lines : List CodeLine) : List CodeLine :=
  let isEmpty (l : CodeLine) : Bool := (strip l.2).isEmpty
  ((lines.dropWhile isEmpty).reverse.dropWhile isEmpty).reverse

/-- The line before is shown as well, since it may hold the name, and the last line only if the file
ends with it. -/
def stackCode (resource : Value) : List CodeLine :=
  let first := ((resource.getD startLine).int?).getD 0
  let last := ((resource.getD stopLine).int?).getD 0
  let lines := a.service.lines
  let code := sliceList lines (some (first - 2)) (some (last - 1))
  let more := match CodeLine.nth lines (last - 1) with
    | .ok s => if last - 1 < lines.length && !endsWith s "\n" then [(last,s)] else []
    | .error _ => []
  trimmed (code ++ more)

def judgeResource (name : String) (resource : Value) : Result Report := do
  if !isPart resource || !resource.hasKey "Type" then return rep
  let type := resource.getD "Type"
  let id := type.display ++ "." ++ name
  let rep := rep.addResource (a.service.path ++ ":" ++ id)
  let code := a.stackCode resource
  let some first := code.head? | throw .outOfRange
  let lines : LineRange := ⟨first.1,(code.getLast?.map Prod.fst).getD first.1⟩
  let known ← Check.ofType checks type
  let (found,conf) ← Check.runAll type.display ((SkipComment.ofLines code).map Prod.snd) resource
    (known.filter (a.selection.runsId ·.id))
  return rep.addAll (found.map (a.record lines code id conf))

def judgeStack : Result Report := do
  let stack := a.service.root.getD "resources"
  if !isPart stack then return rep
  let resources := stack.getD "Resources"
  if resources.falsy || !resources.isDict then return rep
  let stack ← withDefaults stack
  (stack.getD "Resources").fields.foldlM (fun rep (name,r) => a.judgeResource rep name r) rep

def judgeFunction (name : String) (function : Value) : Result Report := do
  if !isPart function then return rep
  let some lines := Service.linesOf? function | return rep
  let code := CodeLine.within a.service.lines lines
  if code.isEmpty then return rep
  let conf := a.service.enriched function
  let type := "serverless_" ++ a.service.providerName.display
  let (found,conf) ← Check.runAll type ((SkipComment.ofLines code).map Prod.snd) conf
    ((Check.naming functionChecks type).filter (a.selection.runsId ·.id))
  return rep.addAll (found.map (a.record lines code name conf))

def judge : Result Report := do
  if !isPart a.service.root then return rep
  let rep ← a.judgeStack rep
  (a.service.root.getD "functions").fields.foldlM (fun rep (name,f) => a.judgeFunction rep name f) rep

end Audited

def report (selection : Selection) (shown : String → Result String) (ss : List Service) : Result Report :=
  ss.foldlM (fun rep service => do
    Audited.judge {selection, service, file := ← shown service.path} rep) {framework := "serverless"}

def scanDirectory (ws : Workspace) (sel : Selection) : Result Report := do
  let files ← ws.sources [] sel.excludedPaths
  report sel ws.shown (← Service.ofFiles ws (files.filter fun p => !contains p "/."))

def scanFiles (ws : Workspace) (sel : Selection) (files : List String) : Result Report := do
  report sel .ok (← Service.ofFiles ws files)

end InfraAudit.Serverless
