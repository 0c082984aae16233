import InfraAudit.Packages.Findings

namespace InfraAudit

structure Inventory.Owner where
  organisation : String := ""
  repository : String := ""

structure Inventory.ResourceRow where
  resource : Option String
  file : String
  owner : Owner
  misconfiguration : Option String := none
  severity : Option Severity := none
  details : List String := []

structure Inventory.PackageRow where
  package : Value
  version : Value
  file : String
  owner : Owner
  vulnerability : Value
  severity : Option Severity
  licenses : Value

structure Inventory where
  resources : List Inventory.ResourceRow := []
  packages : List Inventory.PackageRow := []
  images : List Inventory.PackageRow := []

namespace Inventory

variable (inv : Inventory) (owner : Owner)

def hasResource (file : String) (resource : Option String) : Bool :=
  let key (o : Owner) (f : String) (r : Option String) : String :=
    o.organisation ++ "/" ++ o.repository ++ "/" ++ f ++ "/" ++ r.getD "None"
  inv.resources.any fun row => key row.owner row.file row.resource == key owner file resource

/-- A failed record always, any other only for a resource that has no row yet. -/
def addRecord (r : Record) : Inventory :=
  let row : ResourceRow := {resource := r.resource, file := r.file, owner, details := r.details}
  if r.verdict == .failed then
    {inv with resources := inv.resources ++ [{row with misconfiguration := some r.checkId, severity := r.severity}]}
  else if inv.hasResource owner r.file r.resource then inv
  else {inv with resources := inv.resources ++ [row]}

def addExtra (e : ExtraResource) : Inventory :=
  if inv.hasResource owner e.file e.resource then inv
  else {inv with resources := inv.resources ++ [{resource := e.resource, file := e.file, owner}]}

def packageRow? (file : String) (severity : Option Severity) (known : Value) : Result (Option PackageRow) := do
  if !known.truthy then return none
  let licenses ← known.get "licenses"
  return some {
    package := ← known.field "package_name"
    version := ← known.field "package_version"
    file, owner, severity
    vulnerability := ← known.get "id"
    licenses := if licenses == "Unknown" then "" else licenses }

def packageRows (rep : Report) (owner : Owner) : Result (List PackageRow) := do
  let records := (rep.failed ++ rep.passed ++ rep.skipped).filter (·.checkName == Packages.vulnerabilityCheck)
  let found ← records.mapM fun r => packageRow? owner r.file r.severity r.vulnerability
  let extra ← rep.extraResources.mapM fun e => packageRow? owner e.file none e.vulnerability
  return (found ++ extra).filterMap id

def addReport (rep : Report) : Result Inventory := do
  if rep.framework == "sca_package" then return {inv with packages := inv.packages ++ (← packageRows rep owner)}
  else if rep.framework == "sca_image" then return {inv with images := inv.images ++ (← packageRows rep owner)}
  else
    let inv := (rep.failed ++ rep.passed ++ rep.skipped).foldl (fun inv r => inv.addRecord owner r) inv
    return rep.extraResources.foldl (fun inv e => inv.addExtra owner e) inv

def cell (s : String) : String :=
  if s.toList.any fun c => c == ',' || c == '"' || c == '\n' || c == '\r' then
    "\"" ++ Text.replace s "\"" "\"\"" ++ "\""
  else s

def line (cells : List String) : String := Text.join "," (cells.map cell) ++ "\r\n"

def shown : Value → String
  | .null => ""
  | v => v.display

def severityCell (s : Option Severity) : String := (s.map Severity.name).getD ""

def packageHeader := ["Package","Version","Path","Git Org","Git Repository","Vulnerability","Severity","Licenses"]

def resourceHeader := ["Resource","Path","Git Org","Git Repository","Misconfigurations","Severity"]

def resourceTable : String :=
  let detailed := inv.resources.any (!·.details.isEmpty)
  let details (ds : List String) : List String := if detailed then [Text.join "|" ds] else []
  String.join ((line (resourceHeader ++ if detailed then ["Details"] else [])) ::
    inv.resources.map fun r => line ([r.resource.getD "",r.file,r.owner.organisation,r.owner.repository,
      r.misconfiguration.getD "",severityCell r.severity] ++ details r.details))

def signUp : String :=
  "SCA, image and runtime findings are only available with Bridgecrew. Signup at " ++
    "https://www.bridgecrew.cloud/login/signUp and add your API key to include those findings. "

def packageTable (rows : List PackageRow) (isUser : Bool) : String :=
  if isUser then
    String.join (line packageHeader :: rows.map fun r => line [shown r.package,shown r.version,r.file,
      r.owner.organisation,r.owner.repository,shown r.vulnerability,severityCell r.severity,shown r.licenses])
  else line packageHeader ++ line [signUp]

def plain (v : Value) : String := if v.truthy then v.display else ""

def plainPackages (framework : String) : Result String := do
  let rows ← match framework with
    | "sca_package" => pure inv.packages
    | "sca_image" => pure inv.images
    | _ => throw .missingKey
  return Text.join "," packageHeader ++ "\n" ++ String.join (rows.map fun r =>
    Text.join "," [plain r.package,plain r.version,r.file,r.owner.organisation,r.owner.repository,
      plain r.vulnerability,severityCell r.severity,"\"" ++ plain r.licenses ++ "\""] ++ "\n")

end Inventory

end InfraAudit
