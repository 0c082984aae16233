import InfraAudit.Check
import InfraAudit.CodeLines
import InfraAudit.Packages.Version
import InfraAudit.Selection
import InfraAudit.Secrets
import InfraAudit.Workspace

namespace InfraAudit

structure LinkedBlock where
  code : List CodeLine
  file : String
  absoluteFile : String
  lines : LineRange
  resource : String
  tags : Value
  address : Option String := none

namespace LineRange

variable (r : LineRange)

def toValue : Value := .list [.int r.first,.int r.last]

def text : String := toString r.first ++ "-" ++ toString r.last

def fromOne : LineRange := ⟨if r.first == 0 then 1 else r.first,if r.last == 0 then 1 else r.last⟩

end LineRange

def CodeLine.toPairs (code : List CodeLine) : Value := .list (code.map fun (n,s) => .tuple [.int n,.str s])

def LinkedBlock.toValue (l : LinkedBlock) : Value :=
  .dict [("code_block",CodeLine.toPairs l.code),("file_path",l.file),("file_line_range",l.lines.toValue),
    ("resource",l.resource),("entity_tags",l.tags),("evaluations",.null),
    ("file_abs_path",l.absoluteFile),("resource_address",Value.optionalText l.address)]

structure Record where
  checkId : String
  platformId : Option String := none
  checkName : String
  verdict : Verdict
  keys : List Value := []
  comment : Option String := none
  entity : Value := .null
  code : List CodeLine := []
  file : String
  absoluteFile : String
  lines : LineRange
  resource : Option String
  evaluations : Value := .null
  origin : String := ""
  tags : Value := .null
  callerFile : Option String := none
  callerLines : Option LineRange := none
  address : Option String := none
  severity : Option Severity := none
  category : Option String := none
  benchmarks : Value := .null
  description : Option String := none
  shortDescription : Option String := none
  vulnerability : Value := .null
  fixes : Option (List Packages.Version) := none
  linked : Value := .null
  guideline : Option String := none
  details : List String := []
  breadcrumbs : Fields := []
  job : Value := .null
  triggers : Value := .null
  workflowName : Value := .null
  moved : Bool := false
  withoutCode : Bool := false

def Record.same (a b : Record) : Bool :=
  a.checkId == b.checkId && a.resource == b.resource && a.lines == b.lines &&
    a.absoluteFile == b.absoluteFile && a.verdict == b.verdict && a.comment == b.comment &&
    Value.eqItems a.keys b.keys && Value.eq a.entity b.entity

/-- A record with breadcrumbs no longer names the block that its resource is connected to. -/
def Record.withBreadcrumbs (r : Record) (crumbs : Fields) : Record :=
  if crumbs.isEmpty then r else {r with breadcrumbs := crumbs, linked := .null}

end InfraAudit

namespace InfraAudit.Finding

def secrets (f : Finding) (conf : Value) : List String :=
  if f.check.secrets && f.verdict == .failed then
    (conf.entries.filter fun (k,_) => Text.startsWith k.display (f.check.id ++ "_secret")).map (·.2.display)
  else []

def maskedCode (f : Finding) (conf : Value) (code : List CodeLine) : List CodeLine :=
  match f.secrets conf with
  | [] => code
  | found => code.map fun (n,line) => (n,Secrets.maskAll found line)

def toRecord (f : Finding) (file absoluteFile : String) (lines : LineRange) (code : List CodeLine)
    (resource : Option String) : Record :=
  { checkId := f.check.id, checkName := f.check.name, verdict := f.verdict, keys := f.keys, comment := f.comment
    code, file, absoluteFile, lines, resource }

end InfraAudit.Finding

namespace InfraAudit

open Selection

def SourceFile.lines (f : SourceFile) : List CodeLine :=
  (Text.newlineTerminated (Text.unifyLineEnds f.text)).zipIdx.map fun (s,i) => (Int.ofNat i+1,s)

namespace SkipComment

def pattern : Text.Pattern := Text.Pattern.of "(checkov:skip=|bridgecrew:skip=) *([A-Za-z_\\d]+)(:[^\\n]+)?"

def noReason : String := "No comment provided"

def read? (line : String) : Option Suppression :=
  if Text.contains line "skip=" then
    (pattern.search? line).map fun m =>
      {id := (m.group? 2).getD "", comment := ((m.group? 3).map (Text.drop · 1)).getD noReason}
  else none

def ofLines (lines : List CodeLine) : List (Int × Suppression) :=
  lines.filterMap fun (n,s) => (read? s).map fun x => (n,x)

end SkipComment

structure ExtraResource where
  file : String
  absoluteFile : String
  resource : Option String
  vulnerability : Value := .null

structure Report where
  framework : String
  passed : List Record := []
  failed : List Record := []
  skipped : List Record := []
  parsingErrors : List String := []
  resources : List String := []
  extraResources : List ExtraResource := []

namespace Report

variable (rep : Report)

def add (r : Record) : Report :=
  match r.verdict with
  | .passed => {rep with passed := rep.passed ++ [r]}
  | .failed => {rep with failed := rep.failed ++ [r]}
  | .skipped => {rep with skipped := rep.skipped ++ [r]}
  | _ => rep

def addAll (rs : List Record) : Report := rs.foldl add rep

def addResource (r : String) : Report :=
  if rep.resources.contains r then rep else {rep with resources := rep.resources ++ [r]}

def addExtra (e : ExtraResource) : Report := {rep with extraResources := rep.extraResources ++ [e]}

def addParsingErrors (files : List String) : Report :=
  {rep with parsingErrors := rep.parsingErrors ++ files.filter (!·.isEmpty)}

def records : List Record := rep.passed ++ rep.failed ++ rep.skipped

def merge (rep other : Report) : Report :=
  { rep with
    passed := rep.passed ++ other.passed
    failed := rep.failed ++ other.failed
    skipped := rep.skipped ++ other.skipped
    parsingErrors := rep.parsingErrors ++ other.parsingErrors }

def distinctRecords (rs : List Record) : List Record :=
  (rs.foldl (fun (acc : List Record) r => if acc.any (·.same r) then acc else r :: acc) []).reverse

def distinct : Report := {rep with passed := distinctRecords rep.passed, failed := distinctRecords rep.failed}

end Report

structure ExitRules where
  soft : Bool := false
  softOn : List String := []
  hardOn : List String := []
  fits : String → String → Bool := Text.globMatches

namespace ExitRules

variable (e : ExitRules)

def softWords : List String := commaList e.softOn

def hardWords : List String := commaList e.hardOn

def softChecks : List String := plainWords e.softWords

def hardChecks : List String := plainWords e.hardWords

def softUpTo : Option Severity := highest e.softWords

def hardFrom : Option Severity := lowest e.hardWords

def namesNothing : Bool := e.softOn.isEmpty && e.hardOn.isEmpty

/-- A check named to fail hard does so in any case, a severity only if the check is not named to
fail softly. All else fails if something is named to fail softly and it is not among that. -/
def failsNamed (r : Record) : Bool :=
  let label : CheckLabel := {id := r.checkId, platformId := r.platformId}
  let named := Selection.named label e.softChecks e.fits
  Selection.named label e.hardChecks e.fits || (Selection.reaches r.severity e.hardFrom && !named) ||
    (!named && !Selection.staysUnder r.severity e.softUpTo && !(e.softChecks.isEmpty && e.softUpTo.isNone) && !e.soft)

def fails (r : Record) : Bool :=
  if e.namesNothing then !e.soft else e.failsNamed r

end ExitRules

def Report.exitCode (rep : Report) (e : ExitRules) : Nat := if rep.failed.any e.fails then 1 else 0

end InfraAudit
