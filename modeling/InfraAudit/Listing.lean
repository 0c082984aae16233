import InfraAudit.Bicep.Scan
import InfraAudit.Dockerfile.Scan
import InfraAudit.HostSettings.Scan
import InfraAudit.OpenApi.Scan
import InfraAudit.Pipeline
import InfraAudit.Serverless.Scan
import InfraAudit.Terraform.Rules

namespace InfraAudit.Listing

open HostSettings Document

structure Row where
  id : String
  type : String
  entity : String
  name : String
  tool : String
  deriving DecidableEq, Repr

/-- Rows are ordered by provider, series, number, the zeros before it, and entity. -/
structure OrderKey where
  provider : String
  series : String
  number : Nat
  zeros : Nat
  entity : String
  deriving Ord

namespace OrderKey

def pattern := Text.Pattern.of "([^_]*)_([^_]*)_(\\d+)"

/-- An id is a series, a provider and a number, but several may stand in one text. -/
def ofId (id entity : String) : List OrderKey :=
  (pattern.findAll id).map fun m =>
    let digits := (m.group? 3).getD ""
    { provider := (m.group? 2).getD "", series := (m.group? 1).getD ""
      number := ((Decimal.int? digits).getD 0).toNat
      zeros := digits.length - (Text.stripLeft (· == '0') digits).length
      entity }

end OrderKey

def Row.key (r : Row) : List OrderKey := OrderKey.ofId r.id r.entity

def sort (rows : List Row) : List Row :=
  ((rows.map fun r => (r.key,r)).mergeSort fun a b => (compare a.1 b.1).isLE).map Prod.snd

variable (sel : Selection)

def ofChecks (type tool : String) (checks : List Check) : List Row :=
  ((Check.listing checks).filter fun (_,c) => sel.runsId c.id).map fun (entity,c) => ⟨c.id,type,entity,c.name,tool⟩

def ofPolicies (tool : String) (policies : List Policy.Outline) : List Row :=
  (policies.filter fun o => sel.runsId o.id).flatMap fun o =>
    o.draft.types.members.map fun type => ⟨o.id,"resource",type,o.name,tool⟩

def ofRules {π : Type} (sel : Selection) (type tool : String) (rules : List (Rule π)) : List Row :=
  (Rule.entitiesOf rules).flatMap fun entity =>
    ((Rule.naming rules entity).filter fun r => sel.runsId r.id).map fun r => ⟨r.id,type,entity,r.name,tool⟩

def secretKinds :=
  ["Artifactory Credentials","AWS Access Key","Azure Storage Account access key","Basic Auth Credentials",
    "Cloudant Credentials","Base64 High Entropy String","IBM Cloud IAM Key","IBM COS HMAC Credentials",
    "JSON Web Token","Secret Keyword","Mailchimp Access Key","NPM tokens","Private Key","Slack Token",
    "SoftLayer Credentials","Square OAuth Secret","Stripe Access Key","Twilio API Key","Hex High Entropy String"]

def secretRows : List Row :=
  let rows := secretKinds.zipIdx.map fun (kind,i) =>
    ({ id := "CKV_SECRET_" ++ toString (i+1), type := kind, entity := "secrets", name := kind,
       tool := "secrets" } : Row)
  rows.filter fun r => sel.policyIds.isEmpty || sel.policyIds.contains r.id

def sections : List (String × List Row) := [
  ("terraform",ofChecks sel "resource" "Terraform" Terraform.resourceChecks ++
    ofChecks sel "data" "Terraform" Terraform.dataChecks ++
    ofChecks sel "provider" "Terraform" Terraform.Credentials.checks ++ ofPolicies sel "Terraform" Terraform.policies),
  ("cloudformation",ofPolicies sel "Cloudformation" CloudFormation.policies ++
    ofChecks sel "resource" "Cloudformation" CloudFormation.checks),
  ("kubernetes",ofChecks sel "resource" "Kubernetes" Kubernetes.checks),
  ("serverless",ofChecks sel "resource" "serverless" Serverless.functionChecks),
  ("dockerfile",(Dockerfile.rules.filter fun r => sel.runsId r.id).map fun r =>
    ⟨r.id,"dockerfile",r.entity,r.name,"dockerfile"⟩),
  ("github_configuration",ofRules sel "github_configuration" "github_configuration" github.rules),
  ("github_actions",ofRules sel "jobs" "github_actions" Pipeline.GithubActions.rules),
  ("gitlab_ci",ofRules sel "jobs" "gitlab_ci" Pipeline.GitlabCi.rules),
  ("gitlab_configuration",ofRules sel "gitlab_configuration" "gitlab_configuration" gitlab.rules),
  ("bitbucket_configuration",
    ofRules sel "bitbucket_configuration" "bitbucket_configuration" bitbucket.rules),
  ("bitbucket_pipelines",ofRules sel "bitbucket_pipelines" "bitbucket_pipelines" Pipeline.Bitbucket.rules),
  ("circleci_pipelines",ofRules sel "circleci_pipelines" "circleci_pipelines" Pipeline.CircleCi.rules),
  ("argo_workflows",ofRules sel "argo_workflows" "Argo Workflows" Pipeline.ArgoWorkflows.rules),
  ("arm",ofChecks sel "resource" "arm" Arm.resourceChecks ++ ofChecks sel "parameter" "arm" Arm.parameterChecks),
  ("bicep",ofPolicies sel "Bicep" Bicep.policies ++ ofChecks sel "parameter" "Bicep" Bicep.parameterChecks ++
    ofChecks sel "resource" "Bicep" Bicep.resourceChecks),
  ("openapi",ofRules sel "resource" "OpenAPI" (OpenApi.rules true)),
  ("secrets",secretRows sel)]

def rows (frameworks : List String) : List Row :=
  let named := if frameworks.isEmpty then ["all"] else frameworks
  sort (((sections sel).filter fun (f,_) => named.contains "all" || named.contains f).flatMap Prod.snd)

end InfraAudit.Listing
