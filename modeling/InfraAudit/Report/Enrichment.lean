import InfraAudit.Report

namespace InfraAudit

structure Enrichment where
  code : List CodeLine
  lines : LineRange
  file : String
  skips : List Suppression := []

abbrev Enrichments := List (String × Enrichment)

def Record.movedTo (r : Record) (es : Enrichments) : Record :=
  match r.resource.bind (es.lookup ·) with
  | some e => {r with file := e.file, lines := e.lines, code := e.code, moved := true, withoutCode := false}
  | none => r

def Record.moduleCall? (r : Record) : Result (Option String) :=
  match r.address with
  | some a =>
    if Text.startsWith a "module." then
      let start := "module.".length+1
      match Text.find? (Text.drop a start) "." with
      | some i => .ok (some (Text.take a (start+i)))
      | none => .error .badValue
    else .ok none
  | none => .ok none

/-- Those whose id contains the id of the record's check, of its resource and then of its module
call. -/
def Record.suppressions (r : Record) (es : Enrichments) : Result (List Suppression) := do
  let of (name : String) : List Suppression :=
    ((es.lookup name).map (·.skips)).getD [] |>.filter fun s => Text.contains s.id r.checkId
  return (r.resource.map of).getD [] ++ ((← r.moduleCall?).map of).getD []

def Report.enrich (rep : Report) (es : Enrichments) : Report := {rep with failed := rep.failed.map (·.movedTo es)}

def Report.applySuppressions (rep : Report) (es : Enrichments) : Result Report := do
  let judged ← rep.failed.mapM fun r => do return (r,← r.suppressions es)
  let skipped := judged.flatMap fun (r,ss) =>
    ss.map fun _ => {r with verdict := .skipped, comment := ss.getLast?.map (·.comment)}
  return { rep with
    failed := (judged.filter fun (_,ss) => ss.isEmpty).map Prod.fst
    skipped := rep.skipped ++ skipped }

end InfraAudit
