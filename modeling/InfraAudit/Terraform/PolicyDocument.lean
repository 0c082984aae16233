import InfraAudit.Terraform.Check
import InfraAudit.Terraform.Aws.Policies
import InfraAudit.Terraform.Azure.Policies
import InfraAudit.Terraform.Google.Policies

namespace InfraAudit.Terraform.PolicyDocument

def namesAll (statement : Value) (key : String) : Result Bool := do
  if (← statement.get key).falsy then return false
  (← statement.firstOf key).listed.has "*"

def allowsNotAll (keys : List String) : Scan := fun conf => do
  for part in ← ((conf.get? "statement").getD (.list [])).elems do
    for statement in part.listed.items do
      if statement.isDict && (statement.get? "effect").all (·.isOnly "Allow") then
        if ← (keys.allM (namesAll statement) : Result Bool) then return .failed
  return .passed

/-- Needs to know what each action of a service can do. It is listed and says nothing by itself. -/
def byCatalogue (id name : String) : Check := .of id name ["iam_policy_document"] fun _ => return .unknown

def checks : List Check := Check.under "CKV_AWS_" "aws_" [
  .of "1" "IAM policies that allow full \"*-*\" administrative privileges are not created" "iam_policy_document"
    (allowsNotAll ["actions","resources"]),
  byCatalogue "107" "IAM policies does not allow credentials exposure",
  byCatalogue "108" "IAM policies does not allow data exfiltration",
  byCatalogue "109" "IAM policies does not allow permissions management / resource exposure without constraints",
  byCatalogue "110" "IAM policies does not allow privilege escalation",
  byCatalogue "111" "IAM policies does not allow write access without constraints",
  .of "49" "no IAM policies documents allow \"*\" as a statement's actions" "iam_policy_document"
    (allowsNotAll ["actions"])]

end InfraAudit.Terraform.PolicyDocument

namespace InfraAudit.Terraform

open Policy

def repositories := ["azuredevops_git_repository"]

def reviewers := ["azuredevops_branch_policy_min_reviewers"]

def groups := ["oci_identity_group"]

def groupMembers := ["oci_identity_user_group_membership"]

def users := ["oci_identity_user"]

def repositoryPolicies : List Outline := [
  .of "CKV2_ADO_1" "at least two approving reviews for PRs" "GENERAL_SECURITY" [
    .linked repositories reviewers,
    .test reviewers "settings.reviewer_count" "greater_than_or_equal" (.int 2),
    .only repositories]]

def hostingPolicies : List Outline := [
  .of "CKV2_GIT_1" "each Repository has branch protection associated" "GENERAL_SECURITY" [
    .linked "github_repository" ["github_branch_protection","github_branch_protection_v3"],
    .only "github_repository"],
  .ofAny "CKV2_OCI_1" "administrator users are not associated with API keys" "IAM" [
    .all [
      .linked groups groupMembers,
      .linked groupMembers users,
      .is groups "name" "Administrators",
      .unlinked users "oci_identity_api_key"],
    .all [
      .linked groups groupMembers,
      .linked groupMembers users,
      .isnt groups "name" "Administrators"],
    .unlinked groupMembers users,
    .only users]]

def policies : List Outline :=
  Aws.policies ++ Azure.policies ++ repositoryPolicies ++ Google.policies ++ hostingPolicies

end InfraAudit.Terraform
