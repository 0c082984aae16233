import InfraAudit.Terraform.Check
import InfraAudit.Aws.PolicyDocument
import InfraAudit.Yaml.Scalar

namespace InfraAudit.Terraform.Aws

open Audit InfraAudit.Aws

def failIfFound (r : Result Bool) : Verdict :=
  match r with
  | .ok true => .failed
  | _ => .passed

def statementsOf (policy : Value) : Result (List Value) := do
  if policy.falsy then return []
  if !policy.isDict then throw .noMember
  return ((policy.get? "Statement").map (·.listed.items)).getD []

def policyAttribute (conf : Value) : Option Value := conf.get? "policy" <|> conf.get? "inline_policy"

variable (statement : Value)

def allowsEverything : Result Bool := do
  if !(← statement.has "Action") then return false
  let effect ← statement.getOr "Effect" "Allow"
  let action := (← statement.getOr "Action" (.list [""])).listed
  let resource := (← statement.getOr "Resource" (.list [""])).listed
  return effect == "Allow" && (Value.str "*").elem action.items && (Value.str "*").elem resource.items

variable (conf : Value)

def noStatement (p : Value → Result Bool) : Scan := fun conf => do
  let some policy := policyAttribute conf | return .passed
  return failIfFound do (← statementsOf (policyDocument (← policy.first))).anyM p

def allowsEveryAction : Result Bool := do
  if !(← statement.has "Action") then return false
  if (← statement.getOr "Effect" (.list ["Allow"])) != "Allow" then return false
  return (Value.str "*").elem (← statement.field "Action").listed.items

def userKey : String → String
  | "aws_iam_policy_attachment" => "users"
  | "aws_iam_user_policy" | "aws_iam_user_policy_attachment" => "user"
  | _ => ""

def accountRoot := Text.Pattern.of "\\d\x7b12\x7d|arn:aws:iam::\\d\x7b12\x7d:root"

def roleNotForAccount : Scan := fun conf => return failIfFound (do
  let document := policyDocument (← conf.firstOf "assume_role_policy")
  if document.falsy then return false
  if !document.isDict then throw .noMember
  if !document.hasKey "Statement" then return false
  let statement ← document.firstOf "Statement"
  let some principal ← statement.reach? ["Principal"] | return false
  if !(← principal.has "AWS") then return false
  return accountRoot.matches? (← (← principal.field "AWS").needText))

def letsAnyoneAssume : Result Bool := do
  if ← statement.has "Effect" then
    if (← statement.field "Effect") == "Deny" then return false
  (← statement.field "Principal").isOpenAt "AWS"

def roleNotForAnyone : Ruling := do
  let policy := conf.getD "assume_role_policy"
  if policy.falsy then return .passed
  return failIfFound (do
    let document := policyDocument (← policy.first)
    if document.falsy then return false
    if !document.isDict then throw .noMember
    match document.get? "Statement" with
    | some s => (← s.elems).anyM letsAnyoneAssume
    | none => return false)

def openKeyStatement : Result (Option String) := do
  let some principal ← statement.reach? ["Principal"] | return none
  if ← statement.has "Effect" then
    if (← statement.field "Effect") == "Deny" then return none
  if ← principal.isOpenAt "AWS" then return some "Principal/AWS"
  return if principal.isWildcard then some "Principal" else none

def findOpenKeyStatement (statements : List Value) : Result (Option (Nat × String)) :=
  statements.zipIdx.findSomeM? fun (s,i) => do return (← openKeyStatement s).map (i,·)

def keyPolicyClosed : Ruling := do
  let some policy := conf.get? "policy" | return .passed
  inspect "policy"
  let statements : Result (Option Value) := do (← policy.first).reach? ["Statement"]
  if let .ok holds := (do (← policy.first).has "Statement") then
    if holds then inspect "policy/[0]/Statement"
  if let .ok (some statements) := statements then
    if let .ok (some (i,part)) := findOpenKeyStatement statements.listed.items then
      let position := if statements.isList then s!"[{i}]/" else ""
      return ← failAt s!"policy/[0]/Statement/{position}{part}"
  return .passed

def keyRotation : Ruling := do
  let spec := conf.getD "customer_master_key_spec"
  let symmetric ← if spec.falsy then pure true else spec.has "SYMMETRIC_DEFAULT"
  if symmetric then require "enable_key_rotation" [true] .failed conf else return .passed

def passwordSetting (key : String) (ok : Option Int → Bool) : Scan := fun conf => do
  let some v ← conf.firstOf? key | return .failed
  if isDependent v then return .unknown
  return .passIf (ok (intOf? v))

def passwordAge : Scan := passwordSetting "max_password_age" (·.any fun n => 0 < n && n ≤ 90)

def passwordAtLeast (key : String) (least : Int) : Scan := passwordSetting key (·.all fun n => n == 0 || least ≤ n)

def keptInOrganization : Result Bool := do
  let some condition ← statement.reach? ["Condition"] | return false
  if !condition.isDict then return false
  let equals := condition.get? "StringEquals" <|> condition.get? "ForAllValues:StringEquals" <|>
    condition.get? "ForAnyValue:StringEquals"
  return equals.any fun e => e.isDict && e.hasKey "aws:PrincipalOrgID"

def repositoryPolicyClosed : Scan := fun conf => do
  let some policy ← conf.firstOf? "policy" | return .passed
  if policy.isText then return .passed
  let statement ← policy.firstOf "Statement"
  if statement.truthy && statement.isDict then
    if (← statement.field "Principal") == "*" then
      if !(← keptInOrganization statement) then return .failed
  return .passed

def letsAnyoneIn : Result Bool := do
  if (← statement.field "Effect") == "Deny" then return false
  let some principal ← statement.reach? ["Principal"] | return false
  if principal == "*" then return true
  principal.isOpenAt "AWS"

def writtenStatements (policy : Value) : Result (List Value) := do
  let document ← Json.read (← policy.needText)
  if document.isDict then statementsOf document else throw .noMember

def writtenPolicy (conf : Value) : Result (Option Value) := do
  let some policy ← conf.firstOf? "policy" | return none
  return (some policy).filter (·.isText)

def bucketPolicyWithout (p : Value → Result Bool) : Scan := fun conf => do
  let some policy ← writtenPolicy conf | return .passed
  return failIfFound do (← writtenStatements policy).anyM p

def locksEveryoneOut : Result Bool := do
  if !statement.isDict then throw .noMember
  if statement.hasKey "Condition" || statement.hasKey "NotAction" || statement.getD "Effect" != "Deny" then return false
  let principal ← statement.field "Principal"
  if principal == "*" then return true
  if ← principal.isOpenAt "AWS" then return true
  let action ← statement.field "Action"
  if action == "*" then return true
  action.isOpenAt "s3"

def templateFile := Text.Pattern.of "\\$?\\\x7b?(.+?)(?=.json).json\\\x7d?"

def vaultPolicyClosed : Ruling := do
  let some policy ← conf.firstOf? "access_policy" | return .passed
  if policy.text?.any templateFile.matches? then return .unknown
  let some policy := spelled? policy | return .unknown
  return .passIf !(← policyIsOpen policy)

def withPolicy (judge : Scan) : Scan := fun conf => do
  let policy := conf.getD "policy"
  if policy.falsy then return .passed
  let policy ← policy.first
  if policy.isDict then judge policy else return .unknown

def topicPolicyClosed : Scan := withPolicy fun policy => do
  let statement ← ((policy.get? "Statement").getD (.list [.dict []])).first
  let conditions ← (← statement.getOr "Condition" (.dict [])).valuesOf
  if !conditions.isEmpty && !conditions.any (·.isDict) then return .unknown
  return .passIf !(← policyIsOpen policy)

def queuePolicyClosed : Scan := withPolicy fun policy =>
  match policyIsOpen policy with
  | .ok isOpen => return .passIf (!isOpen)
  | .error .wrongKind | .error .noMember => return .unknown
  | .error f => throw f

def queuePolicyActions : Scan := fun conf => do
  let some policy ← conf.firstOf? "policy" | return .passed
  if !policy.isDict then return .passed
  let statement ← policy.firstOf "Statement"
  if !statement.isDict then return .passed
  return .passIf ((← statement.field "Action") != "*")

def yamlMapping (content : Value) : Result (Option Value) := do
  match Yaml.read (← content.asText) with
  | .ok d => return (some d).filter (·.isDict)
  | .error .unreadableYaml | .error .unreadableToken => return none
  | .error f => throw f

def jsonMapping (content : Value) : Option Value := (documentOf? content).filter (·.isDict)

def sessionInputs (conf : Value) : Result (Option Value) := do
  let some content := conf.get? "content" | return none
  if !(conf.getD "document_type").isOnly "Session" then return none
  let format := (conf.get? "document_format").getD (.list ["JSON"])
  let content ← content.first
  let document ← if format.isOnly "JSON" then pure (jsonMapping content)
    else if format.isOnly "YAML" then yamlMapping content
    else pure none
  return some (document.elim .null fun d => (d.get? "inputs").getD (.dict []))

def sessionEncrypted : Ruling := do
  let some inputs ← sessionInputs conf | return .unknown
  if inputs.falsy then return .passed
  return .passIf (← inputs.get "kmsKeyId").truthy

def sessionLogsEncrypted : Ruling := do
  let some inputs ← sessionInputs conf | return .unknown
  if inputs.falsy then return .unknown
  if (← inputs.get "s3BucketName").truthy && (inputs.getD "s3EncryptionEnabled").truthy then return .passed
  return .passIf ((inputs.getD "cloudWatchLogGroupName").truthy && (inputs.getD "cloudWatchEncryptionEnabled").truthy)

end InfraAudit.Terraform.Aws
