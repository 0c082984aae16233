import InfraAudit.Expr.Coercion
import InfraAudit.Value.PathGlob

/-!
Checks: rules on the configuration of one entity. A scan notes the attributes it looks at and reaches a verdict; a shape that
makes this impossible is a fault, never a verdict.
-/

namespace InfraAudit

inductive Verdict where
  | passed
  | failed
  | unknown
  | skipped
  | silent
  deriving DecidableEq, Repr, Inhabited

def Verdict.name : Verdict → String
  | .passed => "PASSED"
  | .failed => "FAILED"
  | .unknown => "UNKNOWN"
  | .skipped => "SKIPPED"
  | .silent => ""

def Verdict.passIf (b : Bool) : Verdict := if b then .passed else .failed

/-- What scans work on: the configuration as given, to which they may add, and after some expansions
of its blocks. -/
structure AuditState where
  given : Value
  expansions : Nat := 0
  conf : Value := given
  keys : List Value := []

abbrev Audit := StateT AuditState Result

abbrev Ruling := Audit Verdict

abbrev Scan := Value → Ruling

namespace Audit

def inspect (keys : List String) : Audit Unit := modify fun s => {s with keys := keys.map .str}

def passAt (keys : List String) : Ruling := do
  inspect keys
  return .passed

def failAt (keys : List String) : Ruling := do
  inspect keys
  return .failed

def anyOf {α : Type} (xs : List α) (p : α → Result Bool) : Audit Bool := (xs.anyM p : Result Bool)

def failIfAny {α : Type} (xs : List α) (p : α → Result Bool) : Ruling := return .passIf !(← anyOf xs p)

def note (key : String) : Audit Unit := modify fun s => {s with keys := s.keys ++ [.str key]}

def keep (key : String) (v : Value) : Audit Unit :=
  modify fun s => {s with given := s.given.set! key v, conf := s.conf.set! key v}

end Audit

/-- A value that is given is a secret. -/
def Audit.secretless (v : Value) (id : String) : Ruling := do
  if v.falsy then return .passed
  keep (id ++ "_secret") v
  return .failed

/-- One name stands for the list of it. -/
instance oneName : Coe String (List String) := ⟨([·])⟩

def anything : Value := "CKV_ANY"

structure Check where
  id : String
  name : String
  entities : List String
  secrets : Bool := false
  keys : String → Option (List String) := fun _ => none
  scan : String → Scan

namespace Check

def of (id name : String) (entities : List String) (scan : Scan) : Check := {id, name, entities, scan := fun _ => scan}

def byType (id name : String) (entities : List String) (scan : String → Scan) : Check := {id, name, entities, scan}

def onSecrets (c : Check) : Check := {c with secrets := true}

def onKeys (id name : String) (entities keys : List String) (scan : Scan) : Check :=
  {id, name, entities, keys := fun _ => some keys, scan := fun _ => scan}

/-- A name may start with the option that it is about. -/
def fullName (name : String) : String :=
  if name.isEmpty || Text.startsWith name "=" then Text.drop name 1
  else if Text.startsWith name "--" then "Ensure that the " ++ name
  else "Ensure " ++ name

/-- Checks given without what their ids, names and entities start with alike. -/
def under (ids entities : String) (cs : List Check) : List Check :=
  cs.map fun c => {c with id := ids ++ c.id, name := fullName c.name, entities := c.entities.map (entities ++ ·)}

/-- Gives checks without a name the one that their id has among others. -/
def namedAfter (others cs : List Check) : List Check :=
  cs.map fun c => if c.name.isEmpty then {c with name := ((others.find? (·.id == c.id)).map (·.name)).getD ""} else c

def isPattern (entity : String) : Bool :=
  Text.contains entity "*" || Text.contains entity "?" || (Text.contains entity "[" && Text.contains entity "]")

variable (cs : List Check)

def firstById : List Check := cs.foldl (fun acc c => if acc.any (·.id == c.id) then acc else acc ++ [c]) []

def naming (entity : String) : List Check := firstById (cs.filter (·.entities.contains entity))

def ofType (type : Value) : Result (List Check) :=
  if type.hashable then .ok ((type.text?.map (naming cs)).getD []) else .error .wrongKind

def distinct (xs : List String) : List String := xs.foldl (fun acc x => if acc.contains x then acc else acc ++ [x]) []

def patterns : List String := distinct ((cs.flatMap (·.entities)).filter isPattern)

def forEntity (entity : String) : List Check :=
  (if isPattern entity then [] else naming cs entity) ++
    ((patterns cs).filter (Text.globMatches entity ·)).flatMap (naming cs)

def listing : List (String × Check) :=
  let entities := distinct (cs.flatMap (·.entities))
  let rows := fun (es : List String) => es.flatMap fun e => (naming cs e).map fun c => (e,c)
  rows (entities.filter (!isPattern ·)) ++ rows (entities.filter isPattern)

end Check

structure Finding where
  check : Check
  verdict : Verdict
  keys : List Value := []
  comment : Option String := none

structure Suppression where
  id : String
  comment : String
  deriving Inhabited

def Check.run (c : Check) (entityType : String) (s : AuditState) : Result (Finding × AuditState) := do
  let (verdict,s) ← (c.scan entityType s.conf).run {s with keys := []}
  let keys := match c.keys entityType with
    | some ks => ks.map .str
    | none => s.keys
  return ({check := c, verdict, keys},s)

def Check.runEach (entityType : String) (suppressions : List Suppression) :
    AuditState → List Check → Result (List Finding × AuditState)
  | s,[] => .ok ([],s)
  | s,c :: cs =>
    match suppressions.find? (·.id == c.id) with
    | some sup => do
      let (fs,s) ← runEach entityType suppressions s cs
      return ({check := c, verdict := .skipped, comment := some sup.comment} :: fs,s)
    | none => do
      let (f,s) ← c.run entityType s
      let (fs,s) ← runEach entityType suppressions s cs
      return (f::fs,s)

def Check.runAll (entityType : String) (suppressions : List Suppression) (conf : Value) (cs : List Check) :
    Result (List Finding × Value) := do
  let (fs,s) ← runEach entityType suppressions {given := conf} cs
  return (fs,s.conf)

end InfraAudit
