import InfraAudit.CloudFormation.Check
import InfraAudit.Expr.Syntax

namespace InfraAudit.CloudFormation

open Audit

def policyLimited (policy : Value) : Result Verdict := do
  if !policy.hasKey "Statement" then return .passed
  let unlimited (s : Value) : Result Bool := do
    if !(← s.has "Action") then return false
    let effect ← s.partOr "Effect" "Allow"
    let star := Value.str "*"
    return effect == "Allow" && star.elem (← s.part "Action").listed.items &&
      star.elem (← s.part "Resource").listed.items
  return .passIf !(← anyItem unlimited (policy.getD "Statement").listed.items)

def policyNamesActions (policy : Value) : Result Verdict := do
  if policy.falsy then return .passed
  let policy ← match policy with
    | .str s => Expr.readLiteral s
    | v => pure v
  let some statements := policy.get? "Statement" | return .passed
  match statements.listed.items with
  | [] => return .silent
  | s::_ =>
    if !(← s.has "Action") then return .passed
    if (← s.partOr "Effect" (.list ["Allow"])) != "Allow" then return .passed
    return .passIf !((Value.str "*").elem (← s.field "Action").listed.items)

def policiesOf (judge : Value → Result Verdict) : Scan := fun conf => do
  let ps ← properties conf
  if conf.getD "Type" != "AWS::IAM::Policy" && ps.hasKey "Policies" then
    let policies := ps.getD "Policies"
    if (← policies.size) == 0 then return .unknown
    let one (p : Value) : Result (Option Verdict) := do
      if !p.isDict then return some .unknown
      let document := p.getD "PolicyDocument"
      if document.falsy then return none
      return if (← judge document) == .failed then some .failed else none
    return (← firstVerdict one (← policies.elems)).getD .passed
  match ps.get? "PolicyDocument" with
  | some document => judge document
  | none => return .unknown

def accountRoot := Text.Pattern.of "\\d\x7b12\x7d|arn:aws:iam::\\d\x7b12\x7d:root"

/-- A document, also as a text with substitutions, and whether it stands in the template itself. -/
def roleDocument (v : Value) : Result (Option (Value × Bool)) := do
  match v.get? "Fn::Sub", v with
  | some (.list [x,_]),_ | some x,_ => return some (← Json.read (← x.needText),false)
  | none,v => return (spelled? v).map (·,!v.isText)

def names (inTemplate : Bool) (v : Value) (key : String) : Result Bool :=
  if inTemplate then v.partHas key else do return (← v.keysOf).any (· == .str key)

variable (conf : Value)

def roleNotForAccount : Scan := onProps fun ps => do
  if ps.falsy then return .unknown
  if !(← ps.has "AssumeRolePolicyDocument") then return .unknown
  let some (document,inTemplate) ← roleDocument (← ps.field "AssumeRolePolicyDocument") | return .unknown
  if !(← names inTemplate document "Statement") then return .silent
  let statements := document.getD "Statement"
  if !statements.isList then return .passed
  let first ← statements.first
  let some principal ← first.reach? ["Principal"] | return .passed
  if !(← principal.has "AWS") then return .passed
  let account ← principal.field "AWS"
  if !account.isList then return .passed
  match ← account.first with
  | .str s => return .passIf !(accountRoot.matches? s)
  | _ => return .passed

def statementPath (i : Nat) : String := "Properties/AssumeRolePolicyDocument/Statement/" ++ positionText i

def openPrincipal (statement : Value) (i : Nat) : Option String :=
  if statement.getD "Effect" == "Deny" then none
  else match (statement.getD "Principal").getD "AWS" with
    | .str "*" => some (statementPath i ++ "/Principal/AWS")
    | .list xs => (xs.findIdx? (· == .str "*")).map fun j =>
        statementPath i ++ "/Principal/" ++ positionText j ++ "/AWS"
    | _ => none

def roleNotForAnyone : Ruling := do
  inspect "Properties/AssumeRolePolicyDocument/Statement"
  let some document := spelled? ((conf.getD "Properties").getD "AssumeRolePolicyDocument") | return .unknown
  let keys := (document.getD "Statement").items.zipIdx.findSome? fun (s,i) => openPrincipal s i
  keys.elim (return .passed) (failAt ·)

mutual

def fieldsNamed (name : String) : Fields → List Value
  | [] => []
  | (k,v)::r => (if k == name then [v] else fieldsNamedIn name v) ++ fieldsNamed name r

def fieldsNamedIn (name : String) : Value → List Value
  | .dict fs => fieldsNamed name fs
  | .list xs => fieldsNamedItems name xs
  | _ => []

def fieldsNamedItems (name : String) : List Value → List Value
  | [] => []
  | .dict fs :: r => fieldsNamed name fs ++ fieldsNamedItems name r
  | _::r => fieldsNamedItems name r

end

def keyPolicyClosed : Scan := onProps fun ps => do
  if ps.falsy then return .passed
  let policy ← ps.part "KeyPolicy"
  if policy.falsy then return .passed
  let star := Value.str "*"
  return .passIf !((fieldsNamed "Principal" (← policy.partFields)).any fun p =>
    p == star || p.fields.any fun (_,v) => v == star)

def keptInOrganization (statement : Value) : Result Bool := do
  let some condition ← statement.reach? ["Condition"] | return false
  let pick (key : String) (rest : Result Value) : Result Value := do
    if ← condition.has key then condition.field key else rest
  let equals ← pick "StringEquals" (pick "ForAllValues:StringEquals" (pick "ForAnyValue:StringEquals" (pure .null)))
  return equals.hasKey "aws:PrincipalOrgID"

def openToEveryone (inTemplate : Bool) (statement : Value) : Result (Option Nat) := do
  if !(← names inTemplate statement "Principal") then return none
  let principals ← (← statement.field "Principal").elems
  let some i := principals.findIdx? (· == .str "*") | return none
  return if ← keptInOrganization statement then none else some i

def firstOpen (inTemplate : Bool) (statements : List Value) : Result (Option (Nat × Nat)) :=
  statements.zipIdx.findSomeM? fun (s,i) => do return (← openToEveryone inTemplate s).map (i,·)

def repositoryClosed : Ruling := do
  let base := "Properties/RepositoryPolicyText/Statement"
  inspect [base]
  let written := (conf.getD "Properties").getD "RepositoryPolicyText"
  if written.falsy then return .passed
  let some policy := spelled? written | return .unknown
  let inTemplate := !written.isText
  if !(← names inTemplate policy "Statement") then return .passed
  let some (i,j) ← firstOpen inTemplate (policy.getD "Statement").items | return .passed
  failAt [base ++ "/" ++ positionText i ++ "/Principal/" ++ positionText j]

end InfraAudit.CloudFormation
