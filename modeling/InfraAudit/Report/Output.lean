import InfraAudit.Json.Writer
import InfraAudit.Report.Inventory
import InfraAudit.Report.Document
import InfraAudit.Report.TestSuite

namespace InfraAudit

open Text

def Markdown.table (headings : List String) (rows : List (List String)) : String :=
  let rows := rows.map fun row => row.map strip
  let columns := headings.zipIdx.map fun (h,i) => (rows.map fun row => (row.getD i "").length).foldl max (h.length+2)
  let numberWidth := (rows.zipIdx.map fun (_,i) => (toString i).length).foldl max 2
  let draw (number : String) (cells : List String) : String :=
    "| " ++ padLeft number numberWidth ' ' ++ " | " ++
      join " | " ((cells.zip columns).map fun (c,w) => padRight c w) ++ " |"
  let dashes := "|" ++ join "|" ((numberWidth::columns).map fun w => replicate (w+2) "-") ++ "|"
  join "\n" (draw "" headings :: dashes :: rows.zipIdx.map fun (row,i) => draw (toString i) row)

def Report.failedTable? (rep : Report) (platformIds : Bool) : Option String :=
  if rep.failed.isEmpty then none
  else some ("### " ++ rep.framework ++ " scan results:\n\n" ++
    Markdown.table ["check_id","file","resource","check_name","guideline"]
      (rep.failed.map fun r =>
        [r.shownId platformIds,r.file,r.resource.getD "",r.checkName,r.guideline.getD ""]) ++ "\n\n---\n")

def Report.isEmpty (rep : Report) : Bool := rep.records.isEmpty && rep.parsingErrors.isEmpty

structure OutputSettings where
  root : String
  banner : String
  options : Fields
  url : Option String := none
  createdBaseline : Option String := none
  baseline : Option String := none

namespace OutputSettings

def defaults : Fields :=
  [("output",.list ["cli"]),("quiet",false),("compact",false),("output_bc_ids",false),
    ("soft_fail",false),("soft_fail_on",.null),("hard_fail_on",.null),("output_file_path",.null)]

variable (s : OutputSettings)

def option (k : String) : Value := (s.options.lookup k).getD .null

def isSet (k : String) : Bool := (s.option k).truthy

def formats : List String := ((s.option "output").items.filterMap Value.text?).eraseDups

def asksFor (format : String) : Bool := s.formats.contains format

def style : ConsoleStyle where
  quiet := s.isSet "quiet"
  compact := s.isSet "compact"
  platformIds := s.isSet "output_bc_ids"
  createdBaseline := s.createdBaseline
  baseline := s.baseline

def wordsOf : Value → List String
  | .str s => if s.isEmpty then [] else [s]
  | v => v.items.filterMap Value.text?

def exitRules : ExitRules where
  soft := s.isSet "soft_fail"
  softOn := wordsOf (s.option "soft_fail_on")
  hardOn := wordsOf (s.option "hard_fail_on")

def properties : List (String × String) := (s.options.filter fun (_,v) => !v.isNull).map fun (k,v) => (k,v.display)

def owner : Result Inventory.Owner := do
  match s.option "repo_id" with
  | .null => return {}
  | id => match Text.split (← id.asText) "/" with
    | [organisation,repository] => return {organisation, repository}
    | _ => throw .badValue

def directory? : Option String :=
  if s.isSet "output_file_path" then some (PathName.absolute s.root (s.option "output_file_path").display) else none

end OutputSettings

structure Output where
  reports : List Report
  terminal : String := ""
  texts : List (String × String) := []
  files : List (String × String) := []
  pending : List String := []

namespace Output

variable (s : OutputSettings) (o : Output)

def say (s : String) : Output := {o with terminal := o.terminal ++ s ++ "\n"}

def sayAll (ss : List String) : Output := ss.foldl say o

def delimiter : String := "\n--- OUTPUT DELIMITER ---\n"

def finish (format text : String) : Output :=
  let pending := o.pending.filter (· != format)
  let o := {o with texts := o.texts ++ [(format,text)], pending}
  if pending.isEmpty then o else o.say delimiter

def sayMore : Output :=
  match s.url with
  | some u => if u.isEmpty then o else o.say ("More details: " ++ u)
  | none => o

def shown : List Report := o.reports.filter (!·.isEmpty)

def changeShown (f : Report → Result Report) : Result Output := do
  return {o with reports := ← o.reports.mapM fun rep => if rep.isEmpty then pure rep else f rep}

def markdown : Output :=
  let tables := o.shown.map (·.failedTable? (s.isSet "output_bc_ids"))
  let o := o.sayAll (tables.filterMap id)
  {o with texts := o.texts ++ [("github_failed_only",String.join (tables.map fun t => t.getD "\n\n---\n\n"))]}

def cli (s : OutputSettings) (o : Output) : Result Output := do
  let text := String.join (← o.shown.mapM (·.console s.style))
  return (sayMore s (o.say text)).finish "cli" (Colour.bare text)

def sarif (s : OutputSettings) (tool : String) (o : Output) : Result Output := do
  let consoles ← o.shown.mapM (·.console s.style)
  let merged : Report := { framework := "merged", failed := o.shown.flatMap (·.failed)
                           skipped := o.shown.flatMap (·.skipped) }
  let text ← Json.line ((Sarif.logOf merged).toValue tool)
  let o ← ((o.say s.banner).sayAll consoles).changeShown fun rep =>
    .ok {Sarif.settled {rep with framework := merged.framework} with framework := rep.framework}
  let o := (sayMore s o).say "\nWrote output in SARIF format to the file 'results.sarif'"
  return {o with files := o.files ++ [(PathName.join s.root "results.sarif",text)]}.finish "sarif" text

def json (s : OutputSettings) (o : Output) : Result Output := do
  let quiet := s.isSet "quiet"
  let o ← if s.isSet "compact" then o.changeShown (Report.dropCode quiet) else pure o
  let document := match o.shown.map (Report.toValue s.root quiet s.url) with
    | [] => ({framework := ""} : Report).summary
    | [d] => d
    | ds => .list ds
  let o := o.say (← Json.write {indent := some 4} 0 document)
  return o.finish "json" (← Json.line document)

def junit : Result Output := do
  let suites ← match o.shown with
    | [] => do pure [← TestSuite.ofReport {framework := ""} s.properties false]
    | reps => reps.mapM (TestSuite.ofReport · s.properties (s.isSet "output_bc_ids"))
  let text := TestSuite.document suites
  return (o.say text).finish "junitxml" text

def csv (s : OutputSettings) (inv : Inventory) (o : Output) : Result Output := do
  let dir := s.directory?.getD s.root
  if dir != s.root then throw .fileNotFound
  let isUser := !(s.option "bc_api_key").isNull
  let files := [("iac.csv",inv.resourceTable),("container_images.csv",Inventory.packageTable inv.images isUser),
    ("oss_packages.csv",Inventory.packageTable inv.packages isUser)].map fun (n,t) => (PathName.join dir n,t)
  return {o.sayAll (files.map fun (n,_) => "Persisting SBOM to " ++ n) with files := o.files ++ files}

def fileName? : String → Option String
  | "cli" => some "results_cli.txt"
  | "github_failed_only" => some "results_github_failed_only.txt"
  | "sarif" => some "results_sarif.sarif"
  | "json" => some "results_json.json"
  | "junitxml" => some "results_junitxml.xml"
  | _ => none

def save : Output :=
  match s.directory? with
  | some dir =>
    if dir == s.root then
      { o with files := o.files ++ s.formats.filterMap fun f =>
          (fileName? f).map fun n => (PathName.join dir n,(o.texts.lookup f).getD "") }
    else o
  | none => o

def ofReports (reports : List Report) : Result Output := do
  let o : Output := {reports, pending := s.formats}
  let o := if s.asksFor "cli" && !s.isSet "quiet" then o.say (s.banner ++ "\n") else o
  let o := if s.asksFor "github_failed_only" then markdown s o else o
  let inv ← if s.asksFor "csv" then
      o.shown.foldlM (fun (inv : Inventory) rep => do inv.addReport (← s.owner) rep) {}
    else pure {}
  let o ← if s.asksFor "cli" then cli s o else pure o
  let o ← if s.asksFor "sarif" then sarif s "Checkov" o else pure o
  let o ← if s.asksFor "json" then json s o else pure o
  let o ← if s.asksFor "junitxml" then junit s o else pure o
  let o ← if s.asksFor "csv" then csv s inv o else pure o
  return save s o

def exitCode (s : OutputSettings) (reports : List Report) : Nat := (reports.map (·.exitCode s.exitRules)).foldl max 0

end Output

end InfraAudit
