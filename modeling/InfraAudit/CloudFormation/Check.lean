import InfraAudit.Check
import InfraAudit.Terraform.VariableUse

namespace InfraAudit.CloudFormation

def positionText (i : Int) : String := "[" ++ toString i ++ "]"

def pathText : Value → String
  | .int i => positionText i
  | v => v.display

def spelledTruth? (v : Value) : Option Bool :=
  match v with
  | .str s =>
    if Text.lower s == "true" then some true
    else if Text.lower s == "false" then some false
    else none
  | _ => none

/-- A number is taken for a position, so it is only expected where anything is. -/
def isExpected (v : Value) (expected : List Value) : Bool :=
  let v : Value := match v with
    | .int i => .str (positionText i)
    | v => v
  if anything.elem expected && !v.isNull && v != "" then true
  else
    let v := v.unwrapped
    isTemplateDependent v || v.elem expected ||
      (match spelledTruth? v with
        | some b => (Value.bool b).elem expected
        | none => false)

def require (key : String) (expected : List Value) (missing : Verdict := .failed) : Scan := fun conf =>
  let parts := Text.split key "/"
  match (conf.allUnder (parts.getLast?.getD "")).find? fun d => d.path.map pathText == parts with
  | some d => return .passIf (isExpected d.value expected)
  | none => return missing

def forbid (key : String) (forbidden : List Value) : Scan := fun conf =>
  let parts := Text.split key "/"
  let found := (conf.allUnder (parts.getLast?.getD "")).filter fun d => d.path.mapM Value.text? == some parts
  return .passIf !(found.any fun d => d.value.elem forbidden || anything.elem forbidden)

def below (key : String) : String := "Properties/" ++ key

variable (id name : String)

def onKeys (entities keys : List String) (scan : Scan) : Check := .onKeys id name entities (keys.map below) scan

def expects (entities : List String) (key : String) (expected : List Value := [true]) (missing : Verdict := .failed) : Check :=
  onKeys id name entities key (require (below key) expected missing)

def needs (entities : List String) (key : String) : Check := expects id name entities key [anything]

def forbids (entities : List String) (key : String) (forbidden : List Value) : Check :=
  onKeys id name entities key (forbid (below key) forbidden)

def expectsByType (entities : List String) (key : String → String) (expected : List Value) : Check :=
  { id, name, entities
    keys := fun t => some [key t]
    scan := fun t => require (key t) expected }

def properties (conf : Value) : Result Value := conf.field "Properties"

def onProps (judge : Scan) : Scan := fun conf => do judge (← properties conf)

def anyItem (p : Value → Result Bool) (xs : List Value) : Result Bool := xs.anyM p

def firstVerdict (f : Value → Result (Option Verdict)) (xs : List Value) : Result (Option Verdict) := xs.findSomeM? f

end InfraAudit.CloudFormation
