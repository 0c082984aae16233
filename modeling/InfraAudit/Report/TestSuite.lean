import InfraAudit.Report.Console

namespace InfraAudit

inductive Markup where
  | element (name : String) (attributes : List (String × String)) (children : List Markup)
  | leaf (name : String) (attributes : List (String × String)) (text : String)

namespace Markup

def isLegal (c : Char) : Bool := c == '\t' || c == '\n' || (32 ≤ c.toNat && c.toNat != 127)

def escapeChar : Char → String
  | '&' => "&amp;"
  | '<' => "&lt;"
  | '"' => "&quot;"
  | '>' => "&gt;"
  | c => String.singleton c

def escape (s : String) : String := String.join ((s.toList.filter isLegal).map escapeChar)

def escapeAttribute (s : String) : String :=
  String.join ((s.toList.filter fun c => c == '\r' || isLegal c).map escapeChar)

def opening (name : String) (attributes : List (String × String)) : String :=
  "<" ++ name ++ String.join (attributes.map fun (k,v) => " " ++ k ++ "=\"" ++ escapeAttribute v ++ "\"")

mutual

def write (depth : Nat) : Markup → String
  | .leaf name attributes text =>
    Text.replicate depth "\t" ++ opening name attributes ++
      (if text.isEmpty then "/>\n" else ">" ++ escape text ++ "</" ++ name ++ ">\n")
  | .element name attributes children =>
    Text.replicate depth "\t" ++ opening name attributes ++
      (if children.isEmpty then "/>\n"
      else ">\n" ++ writeAll (depth+1) children ++ Text.replicate depth "\t" ++ "</" ++ name ++ ">\n")

def writeAll (depth : Nat) : List Markup → String
  | [] => ""
  | m::ms => write depth m ++ writeAll depth ms

end

def document (m : Markup) : String := "<?xml version=\"1.0\" ?>\n" ++ m.write 0

end Markup

inductive TestOutcome where
  | passed
  | failed (message output : String)
  | skipped (reason : String)

structure TestCase where
  name : String
  className : String
  file : String
  outcome : TestOutcome

structure TestSuite where
  name : String
  properties : List (String × String)
  cases : List TestCase

def Record.failureOutput (r : Record) (framework : String) : Result String := do
  let packages := framework == "sca_package"
  let known ← if packages && r.vulnerability.truthy then do
      let part (label key : String) : Result String := do return label ++ (← r.vulnerability.get key).display
      pure ["","Description: " ++ r.description.getD "None",← part "Link: " "link",
        ← part "Published Date: " "published_date",← part "Base Score: " "cvss",← part "Vector: " "vector",
        ← part "Risk Factors: " "risk_factors"]
    else pure []
  let code ← r.shownCode
  return Text.join "\n" (known ++ ["","Resource: " ++ r.resource.getD "None"]
    ++ (if r.file.isEmpty then [] else ["File: " ++ r.file ++ ": " ++ r.lines.text])
    ++ (if packages then [] else ["Guideline: " ++ r.guideline.getD "None"])
    ++ (if code.isEmpty then [] else ["",CodeLine.listing code false]))

def Record.caseNames (r : Record) (framework : String) (platformIds : Bool) : Result (String × String × String) := do
  if framework == "sca_package" then
    let id := (← r.vulnerability.field "id").display
    let package := (← r.vulnerability.field "package_name").display
    return (id,package ++ ": " ++ (← r.vulnerability.field "package_version").display,r.file ++ "." ++ package)
  else
    return (if platformIds then r.platformId.getD "None" else r.checkId,r.checkName,
      r.file ++ "." ++ r.resource.getD "None")

def Record.testCase? (r : Record) (framework : String) (platformIds : Bool) : Result (Option TestCase) := do
  let packages := framework == "sca_package"
  if packages && (r.checkName != Packages.vulnerabilityCheck || !r.vulnerability.truthy) then return none
  let (id,detail,className) ← r.caseNames framework platformIds
  let outcome ← match r.verdict with
    | .failed => do pure (TestOutcome.failed r.checkName (← r.failureOutput framework))
    | .skipped =>
      if packages then pure (.skipped (id ++ " skipped for " ++ detail))
      else match r.comment with
        | some c => pure (.skipped c)
        | none => throw .missingKey
    | _ => pure .passed
  let severity := (r.severity.map Severity.name).getD "NONE"
  return some {name := "[" ++ severity ++ "][" ++ id ++ "] " ++ detail, className, file := r.file, outcome}

namespace TestCase

variable (c : TestCase)

def isFailed : Bool :=
  match c.outcome with
  | .failed _ _ => true
  | _ => false

def isSkipped : Bool :=
  match c.outcome with
  | .skipped _ => true
  | _ => false

def attributeOf (k v : String) : List (String × String) := if v.isEmpty then [] else [(k,v)]

def toMarkup : Markup :=
  .element "testcase" ([("name",c.name)] ++ attributeOf "classname" c.className ++ attributeOf "file" c.file)
    (match c.outcome with
    | .passed => []
    | .failed message output => [.leaf "failure" ([("type","failure")] ++ attributeOf "message" message) output]
    | .skipped reason => [.leaf "skipped" ([("type","skipped")] ++ attributeOf "message" reason) ""])

end TestCase

namespace TestSuite

def ofReport (rep : Report) (properties : List (String × String)) (platformIds : Bool) : Result TestSuite := do
  let cases ← rep.records.mapM (·.testCase? rep.framework platformIds)
  return {name := rep.framework ++ " scan", properties, cases := cases.filterMap id}

def failures (s : TestSuite) : Nat := s.cases.countP TestCase.isFailed

def toMarkup (s : TestSuite) : Markup :=
  .element "testsuite" [("disabled","0"),("errors","0"),("failures",toString s.failures),("name",s.name),
      ("skipped",toString (s.cases.countP TestCase.isSkipped)),("tests",toString s.cases.length),("time","0")]
    ((if s.properties.isEmpty then [] else
      [.element "properties" [] (s.properties.map fun (k,v) => .leaf "property" [("name",k),("value",v)] "")])
      ++ s.cases.map TestCase.toMarkup)

def document (ss : List TestSuite) : String :=
  (Markup.element "testsuites" [("disabled","0"),("errors","0"),
    ("failures",toString (ss.foldl (fun n s => n+s.failures) 0)),("tests",toString (ss.foldl (fun n s => n+s.cases.length) 0)),
    ("time","0.0")] (ss.map toMarkup)).document

end TestSuite

end InfraAudit
