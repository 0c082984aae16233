import InfraAudit.Report

namespace InfraAudit.Packages

open Version

def aliasOf (name version : String) : String := name ++ "@" ++ version

def shownFile (path : String) : String := "/" ++ path

def resourceOf (path package : String) : String := path ++ "." ++ package

def vulnerabilityCheck : String := "SCA package scan"

def licenseCheck : String := "SCA license"

def unfixable : String := "N/A"

structure Place where
  file : String
  absoluteFile : String
  origin : String := ""

def Place.record (p : Place) (name version : String) (id check : String) (verdict : Verdict) : Record :=
  { checkId := id, checkName := check, verdict, code := [(0,name ++ ": " ++ version)]
    file := shownFile p.file, absoluteFile := p.absoluteFile, lines := ⟨0,0⟩
    resource := some (resourceOf p.file name), origin := p.origin }

def licenseRecord (p : Place) (license : Value) : Result Record := do
  let name ← license.field "package_name"
  let version ← license.field "package_version"
  let policy ← license.field "policy"
  let given ← license.field "status"
  let status := if given == .str "OPEN" then .str "FAILED" else given
  let kind ← license.field "license"
  let base := p.record name.display version.display policy.display licenseCheck
    (if status == "COMPLIANT" then .passed else .failed)
  return { base with
    platformId := some policy.display
    vulnerability := .dict [("package_name",name),("package_version",version),("license",kind),
      ("status",status),("policy",policy)] }

def fixesOf (status current : String) : List Version :=
  if status == "open" then []
  else ((Text.split (Text.replace status "fixed in" "") ",").map fun s => read (Text.strip s)).filter
    fun v => (read current).lt v

def verdictOf (sel : Selection) (package : String) (severity : String) : Result (Verdict × Option String) := do
  if sel.skipPackages.contains package then return (.skipped,some ("Filtered by package '" ++ package ++ "'"))
  match Severity.read? severity with
  | none => throw .missingKey
  | some s => return if sel.within s then (.failed,none) else (.skipped,some "Filtered by severity")

def vulnerabilityRecord (p : Place) (found : Value) (licenses : String) (sel : Selection) : Result Record := do
  let name ← found.field "packageName"
  let version ← found.field "packageVersion"
  let id ← (← found.field "id").uppered
  let given ← found.getOr "severity" "none"
  let severity := if given == .str "moderate" then .str "medium" else given
  let description ← found.get "description"
  let (verdict,comment) ← if sel.skipPackages.contains name.display then verdictOf sel name.display ""
    else verdictOf sel name.display (← severity.asText)
  let status ← found.get "status"
  let status := if status.truthy then status else "open"
  let fixes ← if status == "open" then pure []
    else do pure (fixesOf (← status.asText) (← version.needText))
  let some level := Severity.read? (← severity.asText) | throw .missingKey
  let details : Fields := [("id",id),("status",status),("severity",severity),("package_name",name),
    ("package_version",version),("package_type",""),("image_details",.null),
    ("link",← found.get "link"),("cvss",← found.get "cvss"),("vector",← found.get "vector"),
    ("description",description),("risk_factors",← found.get "riskFactors"),
    ("published_date",← found.get "publishedDate"),
    ("lowest_fixed_version",.str (((lowest? fixes).map text).getD unfixable)),
    ("fixed_versions",.ofStrings (fixes.map text)),("licenses",licenses)]
  let number := Text.replace id "-" "_"
  return { p.record name.display version.display ("CKV_" ++ number) vulnerabilityCheck verdict with
    platformId := some ("BC_" ++ number)
    comment, severity := some level, description := description.text?
    shortDescription := some (id ++ " - " ++ name.display ++ ": " ++ version.display)
    vulnerability := .dict details
    fixes := some fixes }

end InfraAudit.Packages
