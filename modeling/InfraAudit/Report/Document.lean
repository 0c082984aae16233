import InfraAudit.Report

namespace InfraAudit

def toolVersion : String := "2.1.106"

namespace Record

variable (root : String) (r : Record)

def repositoryFile : String :=
  let path := (PathName.relativeTo root (if r.absoluteFile.isEmpty then "." else r.absoluteFile) root).toOption.getD r.absoluteFile
  Text.replace (PathName.unified ("/" ++ path)) "/.." ""

def verdictFields : Fields :=
  [("result",.str r.verdict.name)] ++ (if r.keys.isEmpty then [] else [("evaluated_keys",.list r.keys)])
    ++ (r.comment.map fun c => ("suppress_comment",Value.str c)).toList

def codeValue : Value :=
  if r.moved then .list (r.code.map fun (n,s) => .list [.int n,.str s]) else CodeLine.toPairs r.code

def toFields : Fields :=
  [("check_id",.str r.checkId),("bc_check_id",.optionalText r.platformId),("check_name",.str r.checkName),
    ("check_result",.dict r.verdictFields)] ++ (if r.withoutCode then [] else [("code_block",r.codeValue)])
  ++ [("file_path",.str r.file),("file_abs_path",.str r.absoluteFile),
    ("repo_file_path",.str (r.repositoryFile root)),("file_line_range",r.lines.toValue),
    ("resource",.optionalText r.resource),("evaluations",r.evaluations),("check_class",.str r.origin),
    ("fixed_definition",.null),("entity_tags",r.tags),("caller_file_path",.optionalText r.callerFile),
    ("caller_file_line_range",(r.callerLines.map LineRange.toValue).getD .null),
    ("resource_address",.optionalText r.address),("severity",.optionalText (r.severity.map Severity.name)),
    ("bc_category",.optionalText r.category),("benchmarks",r.benchmarks),
    ("description",.optionalText r.description),("short_description",.optionalText r.shortDescription),
    ("vulnerability_details",r.vulnerability)] ++ (if r.withoutCode then [] else [("connected_node",r.linked)])
  ++ [("guideline",.optionalText r.guideline),("details",.ofStrings r.details)]

def toValue : Value := .dict (r.toFields root)

def dropCode : Record := {r with withoutCode := true}

end Record

def Report.summary (rep : Report) : Value :=
  .dict [("passed",.int rep.passed.length),("failed",.int rep.failed.length),
    ("skipped",.int rep.skipped.length),("parsing_errors",.int rep.parsingErrors.length),
    ("resource_count",.int rep.resources.length),("checkov_version",.str toolVersion)]

def Report.invitation : String :=
  "Add an api key '--bc-api-key <api-key>' to see more detailed insights via https://bridgecrew.cloud"

def Report.toValue (root : String) (quiet : Bool) (url : Option String) (rep : Report) : Value :=
  let records (rs : List Record) : Value := .list (rs.map (Record.toValue root))
  if quiet then
    .dict [("check_type",.str rep.framework),("results",.dict [("failed_checks",records rep.failed)]),
      ("summary",rep.summary)]
  else
    .dict [("check_type",rep.framework),
      ("results",.dict [("passed_checks",records rep.passed),("failed_checks",records rep.failed),
        ("skipped_checks",records rep.skipped),("parsing_errors",.ofStrings rep.parsingErrors)]),
      ("summary",rep.summary),
      ("url",.str (match url with
        | some u => if u.isEmpty then invitation else u
        | none => invitation))]

/-- Files that could not be read are shown as texts, which have no code. -/
def Report.dropCode (quiet : Bool) (rep : Report) : Result Report :=
  if quiet then .ok {rep with failed := rep.failed.map Record.dropCode}
  else if rep.parsingErrors.isEmpty then
    .ok { rep with
      passed := rep.passed.map Record.dropCode
      failed := rep.failed.map Record.dropCode
      skipped := rep.skipped.map Record.dropCode }
  else .error .noMember

end InfraAudit

namespace InfraAudit.Sarif

inductive Level where
  | none
  | note
  | warning
  | error
  deriving DecidableEq, Repr

def Level.name : Level → String
  | .none => "none"
  | .note => "note"
  | .warning => "warning"
  | .error => "error"

def Level.ofSeverity : Severity → Level
  | .critical | .high => .error
  | .medium => .warning
  | .low => .note
  | .none => .none

structure Rule where
  id : String
  name : String
  short : String
  full : String
  help : String

structure Entry where
  ruleId : String
  ruleIndex : Nat
  level : Level
  attachments : List String
  message : String
  uri : String
  lines : LineRange
  suppression : Option (String × String)

structure Log where
  rules : List Rule := []
  results : List Entry := []
  level : Level := .warning

def orElse (s : Option String) (other : String) : String :=
  match s with
  | some t => if t.isEmpty then other else t
  | none => other

def Rule.of (r : Record) : Rule where
  id := r.checkId
  name := r.checkName
  short := orElse r.shortDescription r.checkName
  full := orElse r.description r.checkName
  help := "\"" ++ r.checkName ++ "\nResource: " ++ r.resource.getD "None" ++ "\nGuideline: " ++
    r.guideline.getD "None" ++ "\""

def levelOf (r : Record) (before : Level) : Level :=
  match r.severity with
  | some s => .ofSeverity s
  | none => if r.verdict == .failed then .error else before

def suppressionOf (r : Record) : Option (String × String) :=
  if r.verdict == .skipped then
    some (if r.vulnerability.truthy then "external" else "inSource",r.comment.getD "No comment provided")
  else none

def Log.add (log : Log) (r : Record) : Log :=
  let rules := if log.rules.any (·.id == r.checkId) then log.rules else log.rules ++ [Rule.of r]
  let level := levelOf r log.level
  { rules, level
    results := log.results ++ [{
      ruleId := r.checkId
      ruleIndex := rules.findIdx (·.id == r.checkId)
      level
      attachments := r.details
      message := orElse r.description r.checkName
      uri := Text.stripLeft (· == '/') r.file
      lines := r.lines.fromOne
      suppression := suppressionOf r }] }

def Log.ofRecords (rs : List Record) : Log := rs.foldl Log.add {}

def text (s : String) : Value := .dict [("text",s)]

def Rule.toValue (r : Rule) : Value :=
  .dict [("id",r.id),("name",r.name),("shortDescription",text r.short),
    ("fullDescription",text r.full),("help",text r.help),
    ("defaultConfiguration",.dict [("level","error")])]

def Entry.toValue (e : Entry) : Value :=
  .dict ([("ruleId",.str e.ruleId),("ruleIndex",.int e.ruleIndex),("level",.str e.level.name),
    ("attachments",.list (e.attachments.map fun d => .dict [("description",.str d)])),
    ("message",text e.message),
    ("locations",.list [.dict [("physicalLocation",.dict [("artifactLocation",.dict [("uri",.str e.uri)]),
      ("region",.dict [("startLine",.int e.lines.first),("endLine",.int e.lines.last)])])]])]
    ++ (e.suppression.map fun (kind,reason) =>
      ("suppressions",Value.list [.dict [("kind",kind),("justification",reason)]])).toList)

def Log.toValue (log : Log) (tool : String) : Value :=
  let tool := if tool.isEmpty then "Bridgecrew" else tool
  let home := if Text.lower tool == "bridgecrew" then "https://docs.bridgecrew.io" else "https://checkov.io"
  .dict [("$schema","https://raw.githubusercontent.com/oasis-tcs/sarif-spec/master/Schemata/sarif-schema-2.1.0.json"),
    ("version","2.1.0"),
    ("runs",.list [.dict [
      ("tool",.dict [("driver",.dict [("name",tool),("version",toolVersion),
        ("informationUri",home),("rules",.list (log.rules.map Rule.toValue)),
        ("organization","bridgecrew")])]),
      ("results",.list (log.results.map Entry.toValue))]])]

def isShown (framework : String) (r : Record) : Bool := framework != "sca_package" || r.checkName == "SCA package scan"

def logOf (rep : Report) : Log := .ofRecords ((rep.failed ++ rep.skipped).filter (isShown rep.framework))

def settled (rep : Report) : Report :=
  let settle (r : Record) : Record := if isShown rep.framework r then {r with lines := r.lines.fromOne} else r
  {rep with failed := rep.failed.map settle, skipped := rep.skipped.map settle}

end InfraAudit.Sarif
