import InfraAudit.Report

namespace InfraAudit.Platform

open Fields Text

def normalAddress (s : String) : String :=
  stripRight (· == '/') (replace (replace (lower s) "//app" "//api") "http:" "https:")

def readConditions (fs : Fields) : List String → Fields
  | [] => fs
  | c::cs =>
    match split c "=" with
    | [name,value] => readConditions (insert name (.str value) fs) cs
    | _ => fs

def policyFilter (s : String) : Fields :=
  let s := join "" (words s)
  readConditions [] (split s ",")

def fieldsOf (v : Value) : Result Fields := if v.isDict then .ok v.fields else .error .noMember

structure PolicyBook where
  entries : Fields := []
  checkOf : Fields := []
  checkOfConsole : Fields := []
  filtered : List Value := []

namespace PolicyBook

variable (b : PolicyBook)

def addPublic (known : Value) : Result PolicyBook := do
  let guidelines ← fieldsOf (← known.field "guidelines")
  let ids ← fieldsOf (← known.field "idMapping")
  let entries := guidelines.foldl (fun es (id,g) => insert id (.dict [("guideline",g)]) es) b.entries
  let entries := ids.foldl (fun es (platformId,id) =>
    let entry := ((get? es id.display).getD (.dict [])).fields
    insert id.display (.dict (insert "id" (.str platformId) entry)) es) entries
  return {b with entries, checkOf := ids}

/-- Takes the place of what was known about each check. The ids of the console are of use only
behind it, except for policies that the customer made. -/
def addCustomer (config : Value) (behindConsole : Bool) : Result PolicyBook := do
  let policies ← fieldsOf (← config.field "policyMetadata")
  let b ← policies.foldlM (fun (b : PolicyBook) (id,policy) => do
    let b := {b with checkOf := insert (← policy.field "id").display (.str id) b.checkOf}
    if behindConsole && (← policy.get "pcPolicyId").truthy then
      return {b with checkOfConsole := insert (← policy.get "pcPolicyId").display (.str id) b.checkOfConsole}
    else return b) {b with entries := policies}
  let own ← match config.get? "customPolicies" with
    | some v => v.elems
    | none => pure []
  own.foldlM (fun (b : PolicyBook) policy => do
    let b ← if ← policy.has "guideline" then do
        let entry := Value.dict [("guideline",← policy.field "guideline")]
        pure {b with entries := insert (← policy.field "id").display entry b.entries}
      else pure b
    let consoleId ← policy.get "pcPolicyId"
    if consoleId.truthy then
      return {b with checkOfConsole := insert consoleId.display (← policy.field "id") b.checkOfConsole}
    else return b) b

def addFiltered : Value → Result PolicyBook
  | .list policies => policies.foldlM (fun (b : PolicyBook) policy => do
      let id ← policy.get "policyId"
      match get? b.checkOfConsole id.display with
      | some check => if id.truthy && check.truthy then return {b with filtered := b.filtered ++ [check]} else return b
      | none => return b) b
  | _ => .ok b

end PolicyBook

structure ClonedPolicy where
  source : Option String
  terms : Value

def ClonedPolicy.read (v : Value) : Result ClonedPolicy := do
  return {source := (← v.field "sourceIncidentId").text?, terms := v}

def ClonedPolicy.recordOf (c : ClonedPolicy) (r : Record) : Result Record := do
  let id := (← c.terms.field "id").display
  let guideline ← c.terms.field "guideline"
  let severity ← c.terms.field "severity"
  let title ← c.terms.field "title"
  return { r with checkId := id, platformId := some id, guideline := guideline.text?
                  severity := severity.text?.bind Severity.ofName?, checkName := title.display }

def withClones (cs : List ClonedPolicy) (rs : List Record) : Result (List Record) := do
  let more ← rs.mapM fun r => (cs.filter fun c => c.source == r.platformId).mapM (·.recordOf r)
  return rs ++ more.flatten

def addClones (cs : List ClonedPolicy) (rep : Report) : Result Report := do
  let failed ← withClones cs rep.failed
  let passed ← withClones cs rep.passed
  return {rep with failed, passed, skipped := ← withClones cs rep.skipped}

end InfraAudit.Platform
