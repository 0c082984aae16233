import InfraAudit.Selection
import InfraAudit.Terraform.Alibaba
import InfraAudit.Terraform.Aws.Checks
import InfraAudit.Terraform.Azure.Checks
import InfraAudit.Terraform.Providers
import InfraAudit.Terraform.Google.Checks
import InfraAudit.Terraform.Kubernetes.Workload
import InfraAudit.Terraform.PolicyDocument

namespace InfraAudit.Terraform

inductive RuleKind where
  | resource
  | data
  | provider
  | module
  deriving DecidableEq, Repr

def resourceChecks : List Check :=
  (Aws.checks ++ Google.checks ++ Azure.checks ++ Github.checks ++ Gitlab.checks ++ Linode.checks ++
    Oracle.checks ++ Openstack.checks ++ PaloAlto.checks ++ DigitalOcean.checks ++ Alibaba.checks ++
    Kubernetes.checks ++ Yandex.checks).map fun c => {c with scan := fun type => resourceScan (c.scan type)}

def dataChecks : List Check := PolicyDocument.checks.map fun c => {c with scan := fun type => dataScan (c.scan type)}

def RuleKind.checks : RuleKind → List Check
  | .resource => resourceChecks
  | .data => dataChecks
  | .provider => Credentials.checks
  | .module => []

structure Entity where
  type : String
  name : String
  conf : Value

def Entity.ofTypedBlock (v : Value) (empty : Fault) : Result Entity := do
  let (type,named) :: _ ← v.pairs | throw empty
  let (name,conf) :: _ ← named.pairs | throw empty
  return {type := type.display, name := name.display, conf}

def Entity.ofValue (kind : RuleKind) (v : Value) : Result Entity :=
  match kind with
  | .resource => ofTypedBlock v .outOfRange
  | .data => ofTypedBlock v .exhausted
  | .provider => do
    let (name,conf) :: _ ← v.pairs | throw .outOfRange
    return {type := name.display, name := name.display, conf}
  | .module => do
    let (name,conf) :: _ ← v.pairs | throw .exhausted
    return {type := "module", name := name.display, conf}

/-- An entity without settings is not judged. Answers also the settings as the checks leave them. -/
def Entity.findings (e : Entity) (checks : List Check) (sel : Selection) (suppressions : List Suppression) :
    Result (List Finding × Value) :=
  if e.conf.isDict then
    Check.runAll e.type suppressions e.conf ((Check.forEntity checks e.type).filter (sel.runsId ·.id))
  else .ok ([],e.conf)

end InfraAudit.Terraform
