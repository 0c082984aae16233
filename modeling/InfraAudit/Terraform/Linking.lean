import InfraAudit.Terraform.Blocks
import InfraAudit.Terraform.Reference

namespace InfraAudit.Terraform

open PathName

open InfraAudit.Graph (EncryptionRule)
open InfraAudit.Graph.EncryptionRule (given isOn oneOf)

def encryptionWords : Graph.EncryptionWords := {nodeToNode := "node_to_node_encryption"}

def encryptionRules : List EncryptionRule := [
  .of "aws_ecr_repository" [
    oneOf "encryption_configuration.encryption_type" ["AES256","KMS"],
    given "encryption_configuration.kms_key"],
  .of "aws_neptune_cluster" [isOn "storage_encrypted",given "kms_key_arn"],
  .of "aws_efs_file_system" [isOn "encrypted",given "kms_key_id"],
  .of "aws_sagemaker_feature_group" [given "security_config.kms_key_id"],
  .of "aws_ebs_volume" [isOn "encrypted",given "kms_key_id"],
  .of "aws_elasticache_replication_group" [isOn "at_rest_encryption_enabled",oneOf "kms_key_id" ["arn"]],
  .of "aws_elasticsearch_domain" [
    isOn "encrypt_at_rest.enabled",
    given "kms_key_id",
    isOn "node_to_node_encryption.enabled"],
  .of "aws_msk_cluster" [given "encryption_info.encryption_at_rest_kms_key_arn"],
  .of "aws_docdb_cluster" [isOn "storage_encrypted",given "kms_key_arn"],
  .of "aws_codebuild_project" [given "encryption_key"],
  .of "aws_codebuild_report_group" [
    ("export_config.s3_destination.encryption_disabled",[false]),
    given "export_config.s3_destination.encryption_key"],
  .of "aws_athena_database" [
    oneOf "encryption_configuration.encryption_option" ["SSE_S3","SSE_KMS","CSE_KMS"],
    given "encryption_configuration.kms_key"],
  .of "aws_athena_workgroup" [
    oneOf "configuration.result_configuration.encryption_configuration.encryption_option" ["SSE_S3","SSE_KMS","CSE_KMS"],
    given "configuration.result_configuration.encryption_configuration.kms_key_arn"],
  .of "aws_kinesis_stream" [oneOf "encryption_type" ["KMS"],given "kms_key_id"],
  .of "aws_eks_cluster" [given "encryption_config.provider.key_arn"],
  .of "aws_dynamodb_table" [isOn "server_side_encryption.enabled",given "server_side_encryption.kms_key_arn"] true,
  .of "aws_rds_cluster" [isOn "storage_encrypted",given "kms_key_id"],
  .of "aws_rds_global_cluster" [isOn "storage_encrypted"],
  .of "aws_s3_bucket" [
    oneOf "server_side_encryption_configuration.rule.apply_server_side_encryption_by_default.sse_algorithm" ["aws:kms","AES256"],
    given "server_side_encryption_configuration.rule.apply_server_side_encryption_by_default.kms_master_key_id"],
  .of "aws_s3_bucket_inventory" [given "destination.bucket.encryption"],
  .of "aws_s3_bucket_object" [oneOf "server_side_encryption" ["aws:kms","AES256"],given "kms_key_id"],
  .of "aws_cloudwatch_log_group" [given "kms_key_id"] true,
  .of "aws_cloudtrail" [given "kms_key_id"],
  .of "aws_dax_cluster" [isOn "server_side_encryption.enabled"],
  .of "aws_redshift_cluster" [isOn "encrypted",given "kms_key_id"],
  .of "aws_sns_topic" [given "kms_master_key_id"],
  .of "aws_sqs_queue" [given "kms_master_key_id"]]

open InfraAudit.Graph (Block Edge between hasNested reservedKeys)

structure Configuration where
  ws : Workspace
  tree : ModuleTree := {}
  numbers : List ((String × String) × String) := []
  sources : List ((String × Value) × String) := []
  resourceTypes : List String := []
  deriving Inhabited

namespace Configuration

def directoriesFuel (ws : Workspace) : Nat → String → List String
  | 0,_ => []
  | n+1,dir => dir :: (ws.dirNames dir).flatMap fun d => directoriesFuel ws n (join dir d)

def matching (ws : Workspace) : List String → String → List String
  | [],dir => [dir]
  | p::ps,dir =>
    if Text.hasGlob p then
      ((ws.names dir).filter fun n => Text.globMatches n p).flatMap fun n => matching ws ps (join dir n)
    else
      let path := join dir p
      if ws.has (normalize path) then matching ws ps path else []

def locate (ws : Workspace) (pattern : String) : Option String :=
  let parts := (parts pattern).filter (· != ".")
  if parts.isEmpty || Text.startsWith pattern "/" then none
  else
    let found := (directoriesFuel ws (ws.depth+1) ws.root).flatMap (matching ws parts)
    some ((found.head?).getD ws.root)

def isLocal (ws : Workspace) (dir source : String) : Bool :=
  Text.startsWith source "./" || Text.startsWith source "/./" || Text.startsWith source "../"
    || (ws.names dir).contains source

variable (c : Configuration) (vertices : Array Block)

def destination (dir : String) (source version : Value) : Result String := do
  let s ← source.asText
  if isLocal c.ws dir s then return absolute c.ws.root (join dir s)
  match c.sources.find? fun ((s',v),_) => s' == s && v == version with
  | some (_,path) => return path
  | none => return ((locate c.ws s).map (absolute c.ws.root)).getD ""

def firstOf (b : Block) (key : String) (d : Value) : Result Value := ((Fields.get? b.attributes key).getD d).first

def callDestination (b : Block) : Result String := do
  let source ← firstOf b "source" (.list [""])
  let version ← firstOf b "version" (.list ["latest"])
  c.destination (dirname b.path) source version

abbrev Callers := List ((String × String) × List (String × List Nat))

def addCaller (number : String) (i : Nat) : List (String × List Nat) → List (String × List Nat)
  | [] => [(number,[i])]
  | (n,is)::r => if n == number then (n,if is.contains i then is else is ++ [i]) :: r
    else (n,is) :: addCaller number i r

def callersOf (dir : String) (trail : List String) : Result (List (String × List Nat)) := do
  let file := (trail.getLast?).getD ""
  let above := ModulePath.joinTrail trail.dropLast
  vertices.toList.zipIdx.foldlM (fun acc (b,i) => do
    if b.kind == "module" && b.path == file && b.dependency == above then
      if (← c.callDestination b) == dir then
        match (c.numbers.lookup (b.path,b.name)).filter (!·.isEmpty) with
        | some number => return addCaller number i acc
        | none => return acc
    return acc) []

def mark (callers : Callers) (b : Block) : Block :=
  match ((callers.lookup (dirname b.path,b.dependency)).getD []).lookup b.dependencyNumber with
  | some is => {b with sourceModules := is}
  | none => b

def markModules : Result (Array Block) := do
  let callers : Callers ← c.tree.trails.foldlM (fun (acc : Callers) (dir,trails) =>
    trails.foldlM (fun (acc : Callers) trail => do
      let key := (dir,ModulePath.joinTrail trail)
      if trail.isEmpty || ((acc.lookup key).getD []).length > 0 then return acc
      let found ← c.callersOf vertices dir trail
      return if found.isEmpty then acc else acc ++ [(key,found)]) acc) []
  return vertices.map (mark callers)

def nearest (root : String) (vertices : Array Block) (path : String) (found : List Nat) : Option Nat :=
  (found.foldl (fun (best : Option Nat × Nat) i =>
    let b := vertices.getD i default
    let common := commonPath (absolute root b.path) (absolute root path)
    if common.length > best.2 then (some i,common.length) else best) (none,0)).1

def find? (kind name path dependency number : String) : Option Nat :=
  let dir := dirname path
  let found := vertices.toList.zipIdx.filterMap fun (b,i) =>
    if b.kind == kind && b.name == name && b.dependency == dependency && b.dependencyNumber == number
      && dirname b.path == dir then some i else none
  match found with
  | [i] => some i
  | _ => nearest c.ws.root vertices path found

def resolve (c : Configuration) (vertices : Array Block) (b : Block) (kind : String)
    (parts : List String) : Nat → Option Nat
  | 0 => none
  | n+1 =>
    let name := Text.join "." (parts.take (n+1))
    let found := c.find? vertices kind name b.path b.dependency b.dependencyNumber
    let found := if found.isNone && !b.dependency.isEmpty then
        c.find? vertices kind name b.path b.path b.dependencyNumber
      else found
    match found with
    | some i => some i
    | none => resolve c vertices b kind parts n

def outputEdges (origin module : Nat) (key : String) (parts : List String) : List Edge :=
  let m := vertices.getD module default
  match c.callDestination m, parts with
  | .ok dir,_ :: name :: _ =>
    let found := vertices.toList.zipIdx.find? fun (b,_) =>
      b.kind == "output" && b.name == name && dirname b.path == dir && (b.dependency == m.dependency
          || absolute c.ws.root b.dependency == absolute c.ws.root m.path)
    match found with
    | some (_,i) => between origin i key
    | none => []
  | _,_ => []

def referenceEdges (origin : Nat) (key : String) (r : Reference) : List Edge :=
  let parts := r.parts.map Reference.withoutIndexes
  match c.resolve vertices (vertices.getD origin default) r.kind parts parts.length with
  | none => []
  | some dest =>
    if r.kind == "module" then c.outputEdges vertices origin dest key parts else between origin dest key

def attributeEdges (aliases : Value) (origin : Nat) (field : String × Value) : Result (List Edge) := do
  if reservedKeys.contains field.1 || hasNested field.1 (vertices.getD origin default).attributes then return []
  return (← Reference.inValue aliases c.resourceTypes field.2).flatMap (c.referenceEdges vertices origin field.1)

def argumentEdges (declared : List (Block × Nat)) (origin : Nat) (field : String × Value) : List Edge :=
  if field.1 == "source" || field.1 == "version" then []
  else match declared.find? fun (v,_) => v.name == field.1 with
    | some (_,i) => between i origin "default"
    | none => []

def callEdges (origin : Nat) : Result (List Edge) := do
  let b := vertices.getD origin default
  let source := (Fields.get? b.attributes "source").getD .null
  if source.falsy then return []
  if !(← source.first).isText then return []
  let target := if b.dependency.isEmpty then b.path else ModulePath.joinTrail [b.dependency,b.path]
  let dir ← c.callDestination b
  let number := c.numbers.lookup (b.path,b.name)
  let declared := vertices.toList.zipIdx.filter fun (v,_) =>
    v.kind == "variable" && v.dependency == target && some v.dependencyNumber == number && dirname v.path == dir
  return b.attributes.flatMap (argumentEdges declared origin)

def valueEdges (origin : Nat) : List Edge :=
  let b := vertices.getD origin default
  let declared := vertices.toList.zipIdx.filter fun (v,_) =>
    v.kind == "variable" && v.name == b.name && dirname v.path == dirname b.path
  match declared with
  | [(_,i)] => between i origin "default"
  | _ => []

def settingEdges (i : Nat) : Result (List Edge) :=
  match (vertices.getD i default).kind with
  | "module" => c.callEdges vertices i
  | "tfvar" => .ok (valueEdges vertices i)
  | _ => .ok []

def blockEdges (aliases : Value) (i : Nat) : Result (List Edge) := do
  let own ← (vertices.getD i default).attributes.mapM (c.attributeEdges vertices aliases i)
  return own.flatten ++ (← c.settingEdges vertices i)

def aliasesOf : Value :=
  .dict (vertices.toList.foldl (fun fs b =>
    if Fields.has b.attributes "alias" then Fields.insert b.name (.dict [("block_type_",b.kind)]) fs
    else fs) [])

def graph (blocks : Array Block) : Result Graph := do
  let vertices ← c.markModules blocks
  let edges ← (List.range vertices.size).mapM (c.blockEdges vertices (aliasesOf vertices))
  return Graph.markEncryption encryptionWords encryptionRules {vertices, edges := edges.flatten}

end Configuration

end InfraAudit.Terraform
