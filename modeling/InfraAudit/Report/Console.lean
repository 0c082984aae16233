import InfraAudit.Packages.Summary

namespace InfraAudit

open String

inductive Colour where
  | red
  | green
  | yellow
  | blue
  | magenta
  | cyan
  | white
  deriving DecidableEq, Repr

namespace Colour

def code : Colour → Nat
  | .red => 31
  | .green => 32
  | .yellow => 33
  | .blue => 34
  | .magenta => 35
  | .cyan => 36
  | .white => 97

def escape (n : Nat) : String := "\x1b[" ++ toString n ++ "m"

def paint (c : Colour) (s : String) : String := escape c.code ++ s ++ escape 0

def escapes : Text.Pattern := .of "(?:\\x1B[@-_]|[\\x80-\\x9F])[0-?]*[ -/]*[@-~]"

def bare (s : String) : String := escapes.replace s ""

end Colour

structure ConsoleStyle where
  quiet : Bool := false
  compact : Bool := false
  platformIds : Bool := false
  createdBaseline : Option String := none
  baseline : Option String := none

def CodeLine.limit : Nat := 50

def CodeLine.listing (code : List CodeLine) (coloured : Bool) : String :=
  let plain := if coloured then Colour.escape 37 else ""
  let bright := if coloured then Colour.escape 33 else ""
  let width := (((code.getLast?).map fun (n,_) => toString n).getD "").length
  if code.length ≥ limit then
    "\t\t" ++ bright ++ "Code lines for this resource are too many. Please use IDE of your choice to review the file."
  else join (code.map fun (n,line) =>
    "\t\t" ++ plain ++ Text.padRight (toString n) width ++ " | " ++
      (if Text.startsWith (Text.stripLeft Text.isBlank line) "#" then "" else bright) ++ line)

namespace Record

variable (r : Record)

def shownCode : Result (List CodeLine) := if r.withoutCode then .error .noMember else .ok r.code

def shownId (platformIds : Bool) : String :=
  match r.platformId with
  | some id => if platformIds && !id.isEmpty then id else r.checkId
  | none => r.checkId

def plainChars (s : String) : List Char := s.toList.filter fun c => !" $\x7b\x7d".toList.contains c

def mentions (code : List CodeLine) (expression : String) : Bool :=
  code.any fun (_,line) => Text.contains (ofList (plainChars line)) (ofList (plainChars expression))

def definitionMessage (code : List CodeLine) (name : String) (evaluation definition : Value) : Result String := do
  let expression ← definition.field "definition_expression"
  if mentions code (← expression.needText) then
    let yellow := Colour.paint .yellow
    return Colour.paint .white ("\tVariable " ++ yellow name ++ " (of " ++ (← evaluation.field "var_file").display ++
      ") evaluated to value \"" ++ yellow (← evaluation.field "value").display ++ "\" in expression: " ++
      yellow ((← (← definition.field "definition_name").needText) ++ " = ") ++ yellow expression.display ++ "\n")
  else return ""

def evaluationMessages (code : List CodeLine) : Result String := do
  if !r.evaluations.truthy then return ""
  let messages ← (← r.evaluations.pairs).mapM fun (name,evaluation) => do
    let _ ← evaluation.field "var_file"
    let definitions ← (← evaluation.field "definitions").elems
    return join (← definitions.mapM (definitionMessage code name.display evaluation))
  return join messages

def statusColour : Verdict → Colour
  | .passed => .green
  | .failed => .red
  | .skipped => .blue
  | _ => .white

def detailLines : List String → String
  | [] => ""
  | d::ds => Colour.paint .blue ("\tDetails: " ++ d ++ "\n")
    ++ join (ds.map fun t => Colour.paint .blue ("\t\t" ++ t ++ "\n"))

def placeLines : String :=
  Colour.paint .magenta ("\tFile: " ++ r.file ++ ":" ++ r.lines.text ++ "\n") ++
    (match r.callerFile, r.callerLines with
    | some f,some ls =>
      if f.isEmpty then "" else Colour.paint .magenta ("\tCalling File: " ++ f ++ ":" ++ ls.text ++ "\n")
    | _,_ => "")

def guideLine : String :=
  match r.guideline with
  | some g =>
    if g.isEmpty then "" else
      "\tGuide: " ++ Colour.escape 1 ++ Colour.escape 4 ++ Colour.paint .blue (g ++ "\n") ++ Colour.escape 0
  | none => ""

def console (style : ConsoleStyle) : Result String := do
  let reason ← match r.verdict, r.comment with
    | .skipped,none => throw .missingKey
    | .skipped,some c => pure ("\tSuppress comment: " ++ c ++ "\n")
    | _,_ => pure ""
  let code ← r.shownCode
  let evaluations ← r.evaluationMessages code
  let status := match r.verdict with
    | .passed | .failed | .skipped => r.verdict.name
    | _ => ""
  let head := Colour.paint .white ("Check: " ++ r.shownId style.platformIds ++ ": \"" ++ r.checkName ++ "\"\n")
    ++ Colour.paint (statusColour r.verdict) ("\t" ++ status ++ " for resource: " ++ r.resource.getD "None" ++ "\n")
    ++ ((r.severity.map fun s => "\tSeverity: " ++ s.name ++ "\n").getD "") ++ reason ++ detailLines r.details
    ++ r.placeLines
  return match r.verdict with
    | .skipped => head ++ r.guideLine
    | .failed =>
      if code.isEmpty || style.compact then head ++ evaluations ++ r.guideLine
      else head ++ r.guideLine ++ "\n" ++ CodeLine.listing code true ++ "\n" ++ evaluations
    | _ => head ++ evaluations ++ r.guideLine

end Record

namespace Report

variable (rep : Report)

def countLine : String :=
  let failed := "Failed checks: " ++ toString rep.failed.length
  let skipped := "Skipped checks: " ++ toString rep.skipped.length
  let passed := "Passed checks: " ++ toString rep.passed.length
  let parts :=
    if !rep.parsingErrors.isEmpty then [passed,failed,skipped,"Parsing errors: " ++ toString rep.parsingErrors.length]
    else if rep.framework == "sca_package" then [failed,skipped]
    else [passed,failed,skipped]
  "\n" ++ Text.join ", " parts ++ "\n\n"

def consoleRecords (style : ConsoleStyle) : Result String := do
  if rep.framework == "sca_package" || rep.framework == "sca_image" then
    if rep.failed.isEmpty && rep.skipped.isEmpty then return ""
    else Packages.tables (rep.framework == "sca_package") (rep.failed ++ rep.skipped)
  else
    let shown := if style.quiet then rep.failed else rep.records
    return join (← shown.mapM (·.console style))

def console (style : ConsoleStyle) : Result String := do
  let records ← rep.consoleRecords style
  let unread := if style.quiet then "" else
    join (rep.parsingErrors.map fun f => Colour.paint .red ("Error parsing file " ++ f ++ "ֿ\n"))
  let created := match style.createdBaseline with
    | some p => if p.isEmpty then "" else Colour.paint .blue ("Created a checkov baseline file at " ++ p)
    | none => ""
  let used := match style.baseline with
    | some p => Colour.paint .blue ("Baseline analysis report using " ++ p ++
        " - only new failed checks with respect to the baseline are reported")
    | none => ""
  return Colour.paint .blue (rep.framework ++ " scan results:\n") ++ Colour.paint .cyan rep.countLine ++ records
    ++ unread ++ created ++ used

end Report

end InfraAudit
