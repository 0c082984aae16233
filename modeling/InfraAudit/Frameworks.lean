import InfraAudit.Arm.Scan
import InfraAudit.Bicep.Scan
import InfraAudit.Dockerfile.Scan
import InfraAudit.HostSettings.Scan
import InfraAudit.Kubernetes.Scan
import InfraAudit.OpenApi.Scan
import InfraAudit.Pipeline
import InfraAudit.Serverless.Scan
import InfraAudit.Terraform.Scan

namespace InfraAudit.Framework

open Terraform HostSettings Pipeline

structure Scanner where
  all : Workspace → Selection → Result Report
  some : Workspace → Selection → List String → Result Report

def pipelines : List Kind :=
  [GithubActions.kind,GitlabCi.kind,CircleCi.kind,Bitbucket.kind,
    ArgoWorkflows.kind]

def hosts : List Host := [github,gitlab,bitbucket]

def scanners : List (String × Scanner) :=
  [("terraform",⟨scanDirectory,scanFiles⟩),
    ("terraform_plan",⟨scanPlanDirectory,scanPlanFiles⟩),
    ("cloudformation",⟨CloudFormation.scanDirectory,CloudFormation.scanFiles⟩),
    ("kubernetes",⟨Kubernetes.scanDirectory,Kubernetes.scanFiles⟩),
    ("arm",⟨Arm.scanDirectory,Arm.scanFiles⟩),
    ("serverless",⟨Serverless.scanDirectory,Serverless.scanFiles⟩),
    ("bicep",⟨Bicep.scanDirectory,Bicep.scanFiles⟩),
    ("dockerfile",⟨Dockerfile.scanDirectory,Dockerfile.scanFiles⟩),
    ("openapi",⟨OpenApi.scanDirectory,OpenApi.scanFiles⟩)]
  ++ pipelines.map (fun k => (k.framework,⟨k.scanDirectory,k.scanFiles⟩))
  ++ hosts.map (fun h => (h.framework,⟨h.scanDirectory,h.scanFiles⟩))

def scan (framework : String) (ws : Workspace) (sel : Selection) (only : Option (List String)) : Result Report :=
  match scanners.lookup framework, only with
  | some s,none => s.all ws sel
  | some s,some files => s.some ws sel files
  | none,_ => .error .missingKey

end InfraAudit.Framework
