import InfraAudit.Platform.Policies
import InfraAudit.Report.Document

namespace InfraAudit.Platform

/-- Its own name, as a pattern, after an optional word for the owner on the platform. -/
def repositoryMatches (repository : Option String) (name : Value) : Result Bool := do
  let pattern ← Text.Pattern.read ("^(\\w+_)?" ++ repository.getD "None" ++ "$")
  return pattern.matches? (← name.needText)

structure Suppression where
  checkId : String
  terms : Value

namespace Suppression

def read (book : PolicyBook) (terms : Value) : Result Suppression := do
  let policy ← terms.field "policyId"
  let check := (Fields.get? book.checkOf policy.display).getD policy
  return {checkId := ← check.needText, terms := terms.set! "checkovPolicyId" check}

def appliesTo (s : Suppression) (root : String) (repository : Option String) (r : Record) : Result Bool := do
  match ← s.terms.field "suppressionType" with
  | "Policy" => return true
  | "Accounts" => (← (← s.terms.field "accountIds").elems).anyM (repositoryMatches repository)
  | "Resources" =>
    let place := r.repositoryFile root ++ ":" ++ r.resource.getD "None"
    (← (← s.terms.field "resources").elems).anyM fun resource => do
      if ← repositoryMatches repository (← resource.field "accountId") then
        return (← resource.field "resourceId") == .str place
      else return false
  | "Tags" =>
    if !r.tags.truthy then return false
    (← (← s.terms.field "tags").elems).anyM fun tag => do
      let key ← tag.field "key"
      let value ← tag.field "value"
      return (← r.tags.get key.display) == value
  | _ => return false

def ownPolicy : Text.Pattern := .of "^[a-zA-Z0-9]+_[a-zA-Z]+_\\d\x7b13\x7d$"

def isValid (book : PolicyBook) (repository : Option String) (terms : Value) : Result Bool := do
  let policy ← terms.field "policyId"
  if !(Fields.has book.checkOf policy.display) then
    if !(ownPolicy.matches? (← policy.needText)) then return false
  if (← terms.field "suppressionType") == "Accounts" then
    (← (← terms.field "accountIds").elems).anyM (repositoryMatches repository)
  else return true

end Suppression

abbrev SuppressionBook := List (String × List Suppression)

namespace SuppressionBook

variable (b : SuppressionBook)

def add (s : Suppression) : SuppressionBook := upsert s.checkId [] (· ++ [s]) b

def read (book : PolicyBook) (repository : Option String) (config : Value) : Result SuppressionBook := do
  if !config.truthy then throw .missingKey
  let ss ← (← (← config.get "suppressions").elems).mapM (Suppression.read book)
  let _ ← Text.Pattern.read ("^([a-zA-Z0-9]+_)?" ++ repository.getD "None" ++ "$")
  return (ss.mergeSort fun a b => Text.le a.checkId b.checkId).foldl add []

def firstFor (root : String) (repository : Option String) (r : Record) : List Suppression → Result (Option Suppression)
  | [] => .ok none
  | s::ss => do if ← s.appliesTo root repository r then return some s else firstFor root repository r ss

def skip (r : Record) (comment : Value) : Record :=
  {r with verdict := .skipped, comment := if comment.isNull then none else some comment.display, keys := []}

def judge (root : String) (repository : Option String) (r : Record) : Result (Record × Bool) := do
  let some s ← firstFor root repository r ((b.lookup r.checkId).getD []) | return (r,false)
  return (skip r (← s.terms.field "comment"),true)

def apply (root : String) (repository : Option String) (rep : Report) : Result Report := do
  let judged ← (rep.failed ++ rep.passed).mapM (b.judge root repository)
  let still := (judged.filter fun (_,suppressed) => !suppressed).map Prod.fst
  let suppressed := (judged.filter fun (_,suppressed) => suppressed).map Prod.fst
  return { rep with
    failed := still.filter (·.verdict == .failed)
    passed := still.filter (·.verdict != .failed)
    skipped := rep.skipped ++ suppressed }

end SuppressionBook

structure RepositorySettings where
  skipPaths : List String := []
  threshold : Option Severity := none
  skipPolicies : List String := []

namespace RepositorySettings

abbrev Reading := ExceptT Fault (StateM RepositorySettings)

def lift {α : Type} (r : Result α) : Reading α := ExceptT.mk (pure r)

variable (repository : Option String)

def concerns (sec : Value) : Result Bool := do
  (← (← sec.field "repos").elems).anyM fun name => do return (← repositoryMatches repository name) && name.truthy

def texts (v : Value) : Result (List String) := do return (← v.elems).map Value.display

def readPaths (sec : Value) : Reading Unit := do
  if ← lift (concerns repository sec) then
    let paths ← lift (do texts (← (← sec.field "rule").field "excludePaths"))
    modify fun s => {s with skipPaths := s.skipPaths ++ paths}

def readReview (sec : Value) : Reading Unit := do
  if ← lift (concerns repository sec) then
    let word ← lift (do (← sec.field "rule").field "severityLevel")
    let some level := word.text?.bind Severity.ofName? | throw .missingKey
    modify fun s => match s.threshold with
      | some t => if level.level < t.level then {s with threshold := some level} else s
      | none => {s with threshold := some level}
    let policies ← lift (do texts (← (← sec.field "rule").field "excludePolicies"))
    modify fun s => {s with skipPolicies := s.skipPolicies ++ policies}

def reading (config : Value) : Reading Unit := do
  if !config.truthy then throw .missingKey
  let settings ← lift (config.field "vcsConfig")
  for sec in ← lift (do (← (← settings.field "scannedFiles").field "sections").elems) do readPaths repository sec
  modify fun s => {s with skipPaths := s.skipPaths.eraseDups}
  let reviews ← lift (settings.field "codeReviews")
  if (← lift (reviews.field "enabled")).truthy then
    for sec in ← lift (do (← reviews.field "sections").elems) do readReview repository sec

def read (config : Value) : RepositorySettings × Bool :=
  match (reading repository config).run {} with
  | (.ok _,s) => ({s with skipPolicies := s.skipPolicies.eraseDups},true)
  | (.error _,s) => ({s with skipPolicies := s.skipPolicies.eraseDups},false)

end RepositorySettings

end InfraAudit.Platform
