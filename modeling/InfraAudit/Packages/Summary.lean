import InfraAudit.Packages.Findings
import InfraAudit.Text.Wrap

namespace InfraAudit.Packages

open Text

structure Joints where
  left : String
  joint : String
  right : String

def Joints.top : Joints := ⟨"┌","┬","┐"⟩

def Joints.middle : Joints := ⟨"├","┼","┤"⟩

def Joints.bottom : Joints := ⟨"└","┴","┘"⟩

def rule (j : Joints) (widths : List Nat) : String :=
  j.left ++ join j.joint (widths.map fun w => replicate (w+2) "─") ++ j.right

def cellLines (s : String) (width : Nat) : List String :=
  (split s "\n").flatMap fun l => if l.length > width then wrap l width else [l]

def rowLines (widths : List Nat) (cells : List String) : List String :=
  let columns := (cells.zip widths).map fun (c,w) => (cellLines c w,w)
  let height := columns.foldl (fun n (ls,_) => max n ls.length) 0
  (List.range height).map fun i =>
    "│" ++ String.join (columns.map fun (ls,w) => " " ++ padRight (ls.getD i "") w ++ " │")

structure Tally where
  total : Nat := 0
  critical : Nat := 0
  high : Nat := 0
  medium : Nat := 0
  low : Nat := 0
  skipped : Nat := 0
  mendable : Nat := 0
  open_ : Nat := 0

variable (t : Tally)

def Tally.count : Severity → Result Tally
  | .critical => .ok {t with critical := t.critical+1}
  | .high => .ok {t with high := t.high+1}
  | .medium => .ok {t with medium := t.medium+1}
  | .low => .ok {t with low := t.low+1}
  | .none => .error .noMember

def Tally.cells : List String :=
  ["Total CVEs: " ++ toString t.total,"critical: " ++ toString t.critical,"high: " ++ toString t.high,
    "medium: " ++ toString t.medium,"low: " ++ toString t.low,"skipped: " ++ toString t.skipped]

structure Vulnerability where
  id : Value
  severity : Severity
  fixedIn : Value

structure Affected where
  package : Value
  version : Value := .null
  found : List Vulnerability := []
  fixes : List (List Version) := []

/-- They can only be compared where they have been read as versions. -/
def readFixes (r : Record) : Result (List Version) := do
  match r.fixes with
  | some vs => return vs
  | none => if (← r.vulnerability.field "fixed_versions").truthy then throw .noMember else return []

def addVulnerability (a : Affected) (r : Record) : Result (Tally × Affected) := do
  let t := {t with total := t.total+1}
  if r.verdict == .skipped then return ({t with skipped := t.skipped+1},a)
  let some severity := r.severity | throw .noMember
  let t ← {t with open_ := t.open_+1}.count severity
  let fixedIn ← r.vulnerability.field "lowest_fixed_version"
  let t := if fixedIn == .str unfixable then t else {t with mendable := t.mendable+1}
  let fixes ← readFixes r
  let version ← if a.version.isNull then r.vulnerability.field "package_version" else pure a.version
  let id ← r.vulnerability.field "id"
  return (t,{a with version, found := a.found ++ [⟨id,severity,fixedIn⟩], fixes := a.fixes ++ [fixes]})

def bySeverity (vs : List Vulnerability) : List Vulnerability :=
  vs.mergeSort fun a b => a.severity.level ≥ b.severity.level

def Affected.rows (a : Affected) : List (List String) :=
  let compliant := ((Version.compliant? a.fixes).map Version.text).getD "None"
  (bySeverity a.found).zipIdx.map fun (v,i) =>
    let first (s : String) : String := if i == 0 then s else ""
    [first a.package.display,v.id.display,lower v.severity.name,first a.version.display,
      v.fixedIn.display,first compliant]

def vulnerabilityWidths : List Nat := List.replicate 6 18

/-- It grows with the line, which is kept in proportion to the width of the whole table. -/
def mendWidth (line : String) : Nat := (line.length*132+(line.length+4) - 1) / (line.length+4)

def vulnerabilityTables (file : String) (mendable : Bool) (t : Tally) (packages : List Affected) : String :=
  let w := vulnerabilityWidths
  let counts := [rule .top w] ++ rowLines w t.cells ++ [rule ⟨"├","┴","┤"⟩ w]
  let offer := "To fix " ++ toString t.mendable ++ "/" ++ toString t.open_ ++
    " CVEs, go to https://www.bridgecrew.cloud/"
  let width := [mendWidth offer]
  let offers := if mendable then rowLines width [offer] else []
  let closing := if packages.isEmpty then [if mendable then rule .bottom width else "└┘"] else []
  let listed := packages.zipIdx.flatMap fun (a,i) =>
    (if i == 0 then
      [rule ⟨"├","┬","┤"⟩ w] ++ rowLines w ["Package","CVE ID","Severity","Current version","Fixed version",
        "Compliant version"] ++ [rule .middle w]
    else [rule .middle w]) ++ a.rows.flatMap (rowLines w)
  let last := if packages.isEmpty then [] else [rule .bottom w]
  "\t" ++ file ++ " - CVEs Summary:\n"
    ++ join "\n" ((counts ++ offers ++ closing ++ listed ++ last).map ("\t" ++ ·)) ++ "\n"

structure Licensed where
  version : Value
  policy : Value
  license : Value
  status : Value

def licenseWidths : List Nat := [22,22,22,22,23]

def licenseRows (package : Value) (ls : List Licensed) : List (List String) :=
  ls.zipIdx.map fun (l,i) =>
    (if i == 0 then [package.display,l.version.display] else ["",""]) ++
      [l.policy.display,l.license.display,l.status.display]

def licenseRow (cells : List String) : List String :=
  (rowLines (List.replicate 5 22) cells).map fun line => dropEnd line 1 ++ " │"

def licenseTable (file : String) (packages : List (Value × List Licensed)) : String :=
  let w := licenseWidths
  let listed := packages.zipIdx.flatMap fun ((package,ls),i) =>
    (if i == 0 then
      [rule .top w] ++ licenseRow ["Package name","Package version","Policy ID","License","Status"] ++ [rule .middle w]
    else [rule .middle w]) ++ (licenseRows package ls).flatMap licenseRow
  "\t" ++ file ++ " - Licenses Statuses:\n" ++ join "\n" ((listed ++ [rule .bottom w]).map ("\t" ++ ·)) ++ "\n"

def licensedOf (r : Record) : Result Licensed := do
  return { version := ← r.vulnerability.field "package_version", policy := ← r.vulnerability.field "policy"
           license := ← r.vulnerability.field "license", status := ← r.vulnerability.field "status" }

def addTo {α κ : Type} (same : κ → κ → Bool) (k : κ) (x : α) : List (κ × List α) → List (κ × List α)
  | [] => [(k,[x])]
  | (k',xs)::r => if same k' k then (k',xs ++ [x]) :: r else (k',xs) :: addTo same k x r

def readPackage (package : Value) (rs : List Record) : Result (Tally × Option Affected × List Licensed) := do
  let (t,a,ls) ← rs.foldlM (fun (acc : Tally × Affected × List Licensed) r => do
    let (t,a,ls) := acc
    if r.checkName == vulnerabilityCheck then
      let (t,a) ← addVulnerability t a r
      return (t,a,ls)
    else if r.checkName == licenseCheck then return (t,a,ls ++ [← licensedOf r])
    else return (t,a,ls)) (t,{package},[])
  return (t,if a.found.isEmpty then none else some a,ls)

def fileTables (mendable : Bool) (file : String) (packages : List (Value × List Record)) : Result (List String) := do
  let (t,affected,licensed) ← packages.foldlM (fun (acc : Tally × List Affected × List (Value × List Licensed)) p => do
    let (t,as,ls) := acc
    let (t,a,l) ← readPackage t p.1 p.2
    return (t,as ++ a.toList,if l.isEmpty then ls else ls ++ [(p.1,l)])) ({},[],[])
  return (if t.total > 0 then [vulnerabilityTables file mendable t affected] else [])
    ++ (if licensed.isEmpty then [] else [licenseTable file licensed])

def tables (mendable : Bool) (rs : List Record) : Result String := do
  let files ← rs.foldlM (fun (acc : List (String × List (Value × Record))) r => do
    return addTo (· == ·) r.file (← r.vulnerability.field "package_name",r) acc) []
  let parts ← files.mapM fun (file,found) =>
    fileTables mendable file (found.foldl (fun acc (p,r) => addTo (· == ·) p r acc) [])
  return join "\n" parts.flatten

end InfraAudit.Packages
