import InfraAudit.Policy.Definition
import InfraAudit.Check

namespace InfraAudit.Policy

namespace Draft

variable (types : List String) (key : String)

def test (key operator : String) (value : Value) : Draft :=
  .leaf (some .single) (.str operator) (.str key) value (.oneOf types) (.oneOf [])

def is : Value → Draft := test types key "equals"

def isnt : Value → Draft := test types key "not_equals"

def has : Draft := test types key "exists" .null

def lacks : Draft := test types key "not_exists" .null

def keep (value : Value) : Draft := .leaf (some .filter) "within" (.str key) value (.oneOf types) (.oneOf [])

def onlyAmong (known names : List String) : Draft := keep known "resource_type" (.ofStrings names)

def only (names : List String) : Draft := onlyAmong [] names

def linkedBy (types connected : List String) : Draft :=
  .leaf (some .connection) "exists" (.str key) .null (.oneOf types) (.oneOf connected)

def linked (types connected : List String) : Draft := linkedBy "" types connected

def unlinkedBy (types connected : List String) : Draft :=
  .leaf (some .connection) "not_exists" (.str key) .null (.oneOf types) (.oneOf connected)

def unlinked (types connected : List String) : Draft := unlinkedBy "" types connected

def all (parts : List Draft) : Draft := .node "and" parts

def any (parts : List Draft) : Draft := .node "or" parts

/-- Asks something only of those that have a connection. -/
def ifLinked (types connected : List String) (parts : List Draft) : Draft :=
  any [unlinked types connected,all (linked types connected :: parts)]

end Draft

structure Outline where
  id : String
  name : String
  category : String
  draft : Draft

namespace Outline

def of (id name category : String) (parts : List Draft) : Outline := ⟨id,Check.fullName name,category,.all parts⟩

def ofAny (id name category : String) (parts : List Draft) : Outline := {of id name category [] with draft := .any parts}

def known (provider : String) : List String := (knownTypes? provider).getD []

def policy (o : Outline) : Result Rule :=
  Rule.ofDraft (.str o.id) (.str o.name) (.str o.category) (.list []) o.draft

end Outline

structure Judgement where
  policy : Outline
  keys : List String
  outcome : Outcome

def Judgement.verdicts (j : Judgement) : List (Verdict × Nat) :=
  j.outcome.passed.map (Verdict.passed,·) ++ j.outcome.failed.map (Verdict.failed,·)

def Outline.apply (o : Outline) (g : Net) : Result Judgement × Net :=
  match (do
    let p ← o.policy
    return (p,← p.keys) : Result (Rule × List String)) with
  | .error f => (.error f,g)
  | .ok (p,keys) =>
    let (outcome,g) := p.apply g
    (outcome.map fun outcome => ⟨o,keys,outcome⟩,g)

def applyAll : List Outline → Net → List Judgement × Net
  | [],g => ([],g)
  | o::os,g =>
    let (judgement,g) := o.apply g
    let (judgements,g) := applyAll os g
    (judgement.toOption.toList ++ judgements,g)

end InfraAudit.Policy
