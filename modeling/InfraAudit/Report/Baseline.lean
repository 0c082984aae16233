import InfraAudit.Report

namespace InfraAudit

abbrev Baseline.Findings := List (Option String × List String)

abbrev Baseline := List (String × Baseline.Findings)

namespace Baseline

def addCheck (fs : Findings) (r : Record) : Findings :=
  upsert r.resource [] (fun ids => Text.sort (ids ++ [r.checkId])) fs

def addRecord (b : Baseline) (r : Record) : Baseline := upsert r.file [] (addCheck · r) b

def ofReports (reps : List Report) : Baseline := (reps.flatMap (·.failed)).foldl addRecord []

def findingValue : Option String × List String → Value
  | (resource,ids) => .dict [("resource",.optionalText resource),("check_ids",.ofStrings ids)]

/-- A finding without a resource cannot be put in order with others. -/
def sorted (fs : Findings) : Result Findings :=
  if fs.length > 1 && fs.any (·.1.isNone) then .error .wrongKind
  else .ok (fs.mergeSort fun f g => Text.le (f.1.getD "") (g.1.getD ""))

def entryValue (e : String × Findings) : Result Value := do
  return .dict [("file",e.1),("findings",.list ((← sorted e.2).map findingValue))]

def toValue (b : Baseline) : Result Value := do
  let entries ← (b.mergeSort fun e f => Text.le e.1 f.1).mapM entryValue
  return .dict [("failed_checks",.list entries)]

def findingCovers (finding : Value) (r : Record) : Result Bool := do
  if (← finding.field "resource") == Value.optionalText r.resource then (← finding.field "check_ids").has r.checkId
  else return false

def covers (entries : Value) (r : Record) : Result Bool := do
  (← entries.elems).anyM fun e => do (← (← e.field "findings").elems).anyM (findingCovers · r)

def entriesOf (written : Value) : Result Value := written.getOr "failed_checks" (.dict [])

def hide (r : Record) : Record := {r with verdict := .skipped, comment := some "baseline-skipped"}

/-- Failed records that a baseline has go, or become skipped ones; of the others only those stay
that it has. -/
def reduce (entries : Value) (showSkipped : Bool) (rep : Report) : Result Report := do
  let passed ← rep.passed.filterM (covers entries)
  let skipped ← rep.skipped.filterM (covers entries)
  let old ← rep.failed.filterM (covers entries)
  let new ← rep.failed.filterM fun r => do return !(← covers entries r)
  return {rep with passed, failed := new, skipped := skipped ++ if showSkipped then old.map hide else []}

end Baseline

end InfraAudit
