import InfraAudit.Frameworks
import InfraAudit.Listing
import InfraAudit.Report.Output
import InfraAudit.Template.Conditional
import InfraAudit.Proofs.CloudFormation.Conditions
import InfraAudit.Proofs.Graph.Flattening
import InfraAudit.Proofs.Graph.Repetition
import InfraAudit.Proofs.Terraform.Substitution
import InfraAudit.Proofs.Terraform.Comparison
import InfraAudit.Proofs.Terraform.Conditional
import InfraAudit.Proofs.Policy.Refusals
import InfraAudit.Proofs.Policy.Wrapping
import InfraAudit.Proofs.Policy.Separation
import InfraAudit.Proofs.Policy.Negation
import InfraAudit.Proofs.Policy.Amounts
import InfraAudit.Proofs.Terraform.WriteBack
import InfraAudit.Proofs.Terraform.ModuleOrder
import InfraAudit.Proofs.Report
import InfraAudit.Proofs.Terraform.ModuleTrail
import InfraAudit.Proofs.Baseline
import InfraAudit.Proofs.Suppressions
import InfraAudit.Proofs.Masking
import InfraAudit.Proofs.Terraform.OpenPorts
import InfraAudit.Proofs.Policy.Forms
import InfraAudit.Proofs.Sarif
import InfraAudit.Proofs.Terraform.Plans
import InfraAudit.Proofs.Template.Decoding
import InfraAudit.Proofs.Bicep.References
import InfraAudit.Proofs.Terraform.Canonical
import InfraAudit.Proofs.Terraform.Siblings
import InfraAudit.Proofs.Versions
import InfraAudit.Proofs.Document
import InfraAudit.Proofs.Pipeline
import InfraAudit.Proofs.Kubernetes.Skips
import InfraAudit.Proofs.Terraform.Brackets
import InfraAudit.Proofs.Template.Newlines
import InfraAudit.Proofs.Value.Search
