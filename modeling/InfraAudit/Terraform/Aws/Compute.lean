import InfraAudit.Terraform.Check
import InfraAudit.Secrets

namespace InfraAudit.Terraform.Aws

open Audit

def always (v : Verdict) : Scan := fun _ => return v

variable (conf : Value)

def imageDevicesEncrypted : Ruling := do
  let mappings := conf.getD "ebs_block_device"
  if mappings.truthy then
    for mapping in ← mappings.elems do
      if (← mapping.get "snapshot_id").falsy then
        let encrypted ← mapping.get "encrypted"
        if encrypted.falsy then return .failed
        if (← encrypted.first).isFalse then return .failed
  return .passed

def groupHasTags : Ruling := return .passIf (conf.hasKey "tag" || conf.hasKey "tags")

def batchJobUnprivileged : Ruling := do
  let some container ← conf.headOf? "container_properties" | return .unknown
  let some container := spelled? container | return .unknown
  return .passIf (← container.get "privileged").falsy

def userDataWithoutSecrets (id : String) : Scan := fun conf => do
  if let some data ← conf.firstOf? "user_data" then
    if data.text?.any (Secrets.occurIn · []) then return ← secretless data id
  return .passed

def publicAddressKey : String → String
  | "aws_instance" => "associate_public_ip_address"
  | "aws_launch_template" => "network_interfaces/[0]/associate_public_ip_address"
  | _ => ""

def metadataRequiresToken : Ruling := do
  let some options ← conf.firstOf? "metadata_options" | return .failed
  if !options.isDict then return .failed
  return .passIf ((options.getD "http_tokens").isOnly "required" || (options.getD "http_endpoint").isOnly "disabled")

def recipeDevicesEncrypted : Ruling := do
  let mappings := conf.getD "block_device_mapping"
  if mappings.truthy then
    for mapping in ← mappings.elems do
      if (← mapping.get "ebs").truthy then
        let ebs ← mapping.firstOf "ebs"
        if (← ebs.get "encrypted").falsy then return .failed
        if (← ebs.get "kms_key_id").falsy then return .failed
  return .passed

def devicesEncrypted : Ruling := do
  inspect "root_block_device"
  let root := conf.getD "root_block_device"
  if root.falsy then return .failed
  if (← root.first).falsy then return .failed
  note "ebs_block_device"
  let further := conf.getD "ebs_block_device"
  let blocks ← root.append (if further.truthy then further else .list [])
  if blocks.falsy then return .unknown
  for block in ← blocks.elems do
    if block.isDict && block.getD "encrypted" != .list [true] && (block.getD "snapshot_id").falsy then return .failed
  return .passed

def clusterInsights : Ruling := do
  if let some settings := conf.get? "setting" then
    for (i,setting) in ← settings.enumerate do
      if setting.isDict then
        if (← setting.field "name").isOnly "containerInsights" then
          if (← setting.field "value").isOnly "enabled" then
            return ← passAt [s!"setting/[{i}]/name",s!"setting/[{i}]/value"]
  return .failed

def clusterCommandLogsEncrypted : Ruling := do
  if let some first ← conf.headOf? "configuration" then
    if first.isDict && (first.getD "execute_command_configuration").truthy then
      let command ← first.firstOf "execute_command_configuration"
      if !(← command.get "logging").isOnly "NONE" then
        if (← command.get "kms_key_id").truthy then
          let logs ← command.get "log_configuration"
          if logs.truthy then
            let logs ← logs.first
            if (← logs.get "cloud_watch_encryption_enabled") == .list [true] then return .passed
            if (← logs.get "s3_bucket_encryption_enabled") == .list [true] then return .passed
        return .failed
  return .unknown

def taskVolumesEncrypted : Ruling := do
  inspect "volume"
  if let some volumes := conf.get? "volume" then
    for (i,volume) in ← volumes.enumerate do
      if volume.isDict then
        if let some systems := volume.get? "efs_volume_configuration" then
          for (j,system) in ← systems.enumerate do
            if system.isDict then
              inspect s!"volume/[{i}]/efs_volume_configuration/[{j}]"
              return .passIf ((system.getD "transit_encryption").isOnly "ENABLED")
  return .passed

def taskRolesDiffer : Ruling := do
  inspect ["execution_role_arn","task_role_arn"]
  match conf.get? "execution_role_arn", conf.get? "task_role_arn" with
  | some a,some b => return .passIf (a != b)
  | _,_ => return .passed

def clusterLogTypes : Ruling := do
  let some types ← conf.firstOf? "enabled_cluster_log_types" | return .failed
  if types.isNull then return .failed
  return .passIf (← types.holdsAll ["api","audit","authenticator","controllerManager","scheduler"])

def nodeGroupRemoteAccess : Ruling := do
  let some access ← conf.headOf? "remote_access" | return .passed
  if access.falsy then return .passed
  if !access.isDict then throw .noMember
  return .passIf !(access.hasKey "ec2_ssh_key" && !access.hasKey "source_security_group_ids")

def clusterEndpointRestricted : Ruling := do
  inspect "vpc_config"
  let some network ← conf.firstOf? "vpc_config" | return .unknown
  if ← network.has "endpoint_public_access" then
    if (← network.firstOf "endpoint_public_access").falsy then return ← passAt "vpc_config/[0]/endpoint_public_access"
  if ← network.has "public_access_cidrs" then
    inspect "vpc_config/[0]/public_access_cidrs"
    let cidrs ← network.field "public_access_cidrs"
    if cidrs.truthy then
      let cidrs ← cidrs.first
      if (← cidrs.size) != 0 then
        if !(← cidrs.has "0.0.0.0/0") then return .passed
  return .failed

def emrConfigurationEncrypted : Ruling := do
  let some configuration := conf.get? "configuration" | return .skipped
  return .passIf (← (← configuration.first).has "SSE-KMS")

def emrKerberosRealm : Ruling := do
  let some kerberos ← conf.firstOf? "kerberos_attributes" | return .unknown
  if kerberos.falsy then return .failed
  return .passIf (← kerberos.has "realm")

def environmentWithoutSecrets (id : String) : Scan := fun conf => do
  let environment := (conf.get? "environment").getD (.list [])
  if environment.truthy then
    let block ← environment.first
    if block.isDict then
      inspect "environment"
      if let set :: _ := ((block.get? "variables").getD (.list [])).listed.items then
        if set.isDict then
          inspect "environment/[0]/variables"
          let mut found : List String := []
          for (key,values) in set.entries do
            let texts := values.listed.items.filter (·.isText)
            for (v,i) in texts.zipIdx do
              if Secrets.occurIn (v.text?.getD "") [.aws,.general] then
                keep s!"{id}_secret_{i}" v
                if !found.contains key.display then found := found ++ [key.display]
          if !found.isEmpty then return ← failAt (found.map fun k => s!"environment/[0]/variables/[0]/{k}")
  return .passed

def environmentEncrypted : Ruling := do
  if (← ((conf.get? "environment").getD (.list [])).size) > 0 then
    return .passIf ((conf.get? "kms_key_arn").any (!·.isOnly ""))
  let some key := conf.get? "kms_key_arn" | return .unknown
  return .passIf ((← key.size) == 0)

end InfraAudit.Terraform.Aws
