import InfraAudit.Check
import InfraAudit.Terraform.VariableUse
import InfraAudit.Terraform.DynamicBlock
import InfraAudit.Terraform.Reference

namespace InfraAudit.Terraform

def expanded : Audit Value := do
  let s ← get
  let conf ← expandCalls (s.expansions+1) s.given
  set {s with expansions := s.expansions+1, conf}
  return conf

/-- A resource that is not created is not judged, and dynamic blocks are expanded before a scan. -/
def resourceScan (scan : Scan) : Scan := fun conf => do
  if conf.getD "count" == .list [.int 0] then return .unknown
  scan (← expanded)

def dataScan (scan : Scan) : Scan := fun conf => do
  if conf.getD "count" == .list [.int 0] then return .unknown
  scan conf

def positionPart := Text.Pattern.of "^\\[?\\d+]?$"

def namedParts (path : List String) : List String := path.filter fun p => !positionPart.occursIn p

def refersToBlocks (v : Value) : Result Bool := do
  return !(← Reference.inValue (.dict []) [] v).isEmpty

def expectedBelow (conf : Value) (key : String) (expected : List Value) : Result Bool := do
  let names := namedParts (Text.split key "/")
  let founds ← names.reverse.mapM fun name => conf.search ("**/" ++ name)
  return founds.flatten.any fun f =>
    names == namedParts f.path && !names.isEmpty && (f.value.unwrapped.elem expected || isDependent f.value.unwrapped)

def required (key : String) (expected : List Value) (missing : Verdict) (conf : Value) : Result Verdict := do
  match ← conf.at? key with
  | some v =>
    let v := v.unwrapped
    if v.isNull || v == .list [] then return missing
    if anything.elem expected && v != "" then return .passed
    if isDependent v then return .passed
    if v.elem expected then return .passed
    if ← refersToBlocks v then return .unknown
    return .failed
  | none => return if ← expectedBelow conf key expected then .passed else missing

def require (key : String) (expected : List Value) (missing : Verdict) : Scan := fun _ => do
  required key expected missing (← expanded)

def forbid (key : String) (forbidden : List Value) (missing : Verdict) : Scan := fun _ => do
  let conf ← expanded
  match ← conf.at? key with
  | some v =>
    let v := v.unwrapped
    if v.isNull || v == .list [] then return missing
    if ← refersToBlocks v then return .unknown
    if v.items.any (·.elem forbidden) then return .failed
    return .passIf !(v.elem forbidden || anything.elem forbidden)
  | none => return missing

def forbidUnless (exempt : String) (condition : Value → Result Bool) (key : String) (forbidden : List Value)
    (missing : Verdict) : Scan := fun conf => do
  let expandedConf ← expanded
  if let some v ← expandedConf.at? exempt then
    if ← condition v.unwrapped then return .passed
  forbid key forbidden missing conf

def closedTo (id what : String) (port : Int) (entities : List String) (closed : Int → Scan) (note : String := "") : Check :=
  .of id s!"no {what} allow ingress from 0.0.0.0:0 to port {port}{note}" entities (closed port)

variable (id name : String)

def expects (entities : List String) (key : String) (expected : List Value := [true]) (missing : Verdict := .failed) : Check :=
  .onKeys id name entities [key] (require key expected missing)

def needs (entities : List String) (key : String) : Check := expects id name entities key [anything]

def forbids (entities : List String) (key : String) (forbidden : List Value) (missing : Verdict := .passed) : Check :=
  .onKeys id name entities [key] (forbid key forbidden missing)

def forbidsByType (entities : List String) (key : String → String) (forbidden : List Value) : Check :=
  { id, name, entities
    keys := fun t => some [key t]
    scan := fun t => forbid (key t) forbidden .passed }

end InfraAudit.Terraform
