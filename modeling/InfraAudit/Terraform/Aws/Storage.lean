import InfraAudit.Terraform.Check

namespace InfraAudit.Terraform.Aws

open Audit

def isOn (v : Value) : Bool := v == .list [true]

variable (conf : Value)

def clusterEncrypted : Ruling := do
  if (conf.getD "engine_mode").isOnly "serverless" then return .passed
  require "storage_encrypted" [true] .failed conf

def buildEncryptionKey : Ruling := do
  let artifacts := conf.getD "artifacts"
  if artifacts.falsy then return .unknown
  let artifacts ← artifacts.listed.first
  if artifacts.isDict then
    note "artifacts/[0]/type"
    if (← artifacts.field "type").isOnly "NO_ARTIFACTS" then return .unknown
  note "encryption_key"
  return .passIf (conf.hasKey "encryption_key")

def buildEncrypted : Ruling := do
  let some artifacts := conf.get? "artifacts" | return .unknown
  let artifact ← artifacts.listed.first
  if artifact.isDict then
    if (← artifact.field "type").isOnly "NO_ARTIFACTS" then
      inspect "artifacts/[0]/type"
      return .unknown
    if isOn (artifact.getD "encryption_disabled") then return ← failAt "artifacts/[0]/encryption_disabled"
  passAt "artifacts"

def approvalsNeeded : Ruling := do
  if let .list (content::_) := conf.getD "content" then
    if !content.isDict then return .unknown
    if let .list (statement::_) := content.getD "Statements" then
      if (← statement.get "NumberOfApprovalsNeeded").int?.any (· ≥ 2) then return .passed
      inspect "content/Statements/NumberOfApprovalsNeeded"
  return .failed

def aggregatesAllRegions : Ruling := do
  for key in ["account_aggregation_source","organization_aggregation_source"] do
    if let some source ← conf.firstOf? key then
      if source.isDict && (source.getD "all_regions").truthy then return .passed
  return .failed

def backupRetention : Ruling := do
  let some period ← conf.firstOf? "backup_retention_period" | return .passed
  if isDependent period then return .unknown
  return .passIf ((intOf? period).any fun n => 0 < n && n ≤ 35)

def databaseLogsExported : Ruling := do
  let exports ← ((conf.get? "enabled_cloudwatch_logs_exports").getD (.list [.list []])).first
  return .passIf exports.truthy

def eventCopiesEncrypted (ownKey : Bool) : Scan := fun conf => do
  if let .list (policy::_) := conf.getD "policy_details" then
    if let .list (action::_) := ← policy.get "action" then
      if let .list (copy::_) := ← action.get "cross_region_copy" then
        if let .list (encryption::_) := ← copy.get "encryption_configuration" then
          if isOn (← encryption.get "encryption") && (!ownKey || (encryption.getD "cmk_arn").truthy) then return .passed
        return ← failAt "policy_details/action/0/cross_region_copy/encryption_configuration"
      return .unknown
  return .unknown

def scheduledCopiesEncrypted (ownKey : Bool) : Scan := fun conf => do
  if let .list (policy::_) := conf.getD "policy_details" then
    if let .list schedules := ← policy.get "schedule" then
      for (schedule,i) in schedules.zipIdx do
        if let .list (rule::rules) := ← schedule.get "cross_region_copy_rule" then
          for (r,j) in (rule::rules).zipIdx do
            if r.isDict && (!isOn (r.getD "encrypted") || (ownKey && (r.getD "cmk_arn").falsy)) then
              let attr := if ownKey then "cmk_arn" else "encrypted"
              return ← failAt s!"policy_details/schedule/{i}/cross_region_copy_rule/{j}/{attr}"
          return .passed
  return .unknown

def parameterAt (parameters : Value) (name value : String) : Result (Option Nat) := do
  for (i,p) in ← parameters.enumerate do
    if p.isDict then
      if (← p.firstOf "name") == .str name then
        if (← p.firstOf "value") == .str value then return some i
  return none

def inspectParameter (i : Nat) : Audit Unit := inspect [s!"parameter/[{i}]/name",s!"parameter/[{i}]/value"]

def ifParameter (name value : String) (found otherwise : Verdict) : Scan := fun conf => do
  inspect "parameter"
  if let some parameters := conf.get? "parameter" then
    if let some i ← parameterAt parameters name value then
      inspectParameter i
      return found
  return otherwise

def requireSslParameter : Ruling := do
  let some parameters := conf.get? "parameter" | return .failed
  inspect "parameter"
  for (i,p) in ← parameters.enumerate do
    if p.isDict then
      if (← p.firstOf "name") == "require_ssl" then
        if isOn (← p.field "value") then
          inspectParameter i
          return .passed
  return .failed

def documentLogsExported : Ruling := do
  let some exports ← conf.firstOf? "enabled_cloudwatch_logs_exports" | return .failed
  return .passIf (← exports.holdsAll ["profiler","audit"])

def graphLogsExported : Ruling := do
  let some exports ← conf.firstOf? "enable_cloudwatch_logs_exports" | return .failed
  if exports.falsy then return .failed
  return .passIf (← exports.has "audit")

def tableEncryptionKey : Ruling := do
  if let some block ← conf.firstOf? "server_side_encryption" then
    if block.isDict && isOn (block.getD "enabled") && !(block.getD "kms_key_arn").isNull then return .passed
  return .failed

def cacheBackup : Ruling := do
  if (conf.getD "engine").isOnly "memcached" then return .unknown
  forbid "snapshot_retention_limit" [.int 0] .failed conf

def cacheAuthToken : Ruling := do
  return .passIf ((← conf.firstOf? "transit_encryption_enabled").any (·.truthy) && conf.hasKey "auth_token")

def searchLogging : Ruling := do
  if let .list (option::_) := conf.getD "log_publishing_options" then
    if option.isDict && (option.getD "cloudwatch_log_group_arn").truthy && option.getD "enabled" == .list [false] then
      return .failed
    return .passed
  return .failed

def searchNodesEncrypted : Ruling := do
  inspect "cluster_config"
  let some cluster ← conf.headOf? "cluster_config" | return .passed
  if !cluster.isDict then return .passed
  let some count := cluster.get? "instance_count" | return .passed
  inspect "cluster_config/[0]/instance_count"
  let count ← match count with
    | .list _ => do
      let n ← count.first
      if !n.isInt then return .unknown
      pure n
    | v => pure v
  if count.falsy then return .unknown
  if ← count.le (.int 1) then return .passed
  note "node_to_node_encryption/[0]/enabled"
  if let some block ← conf.firstOf? "node_to_node_encryption" then
    if let some enabled ← block.reach? ["enabled"] then
      let enabled ← if enabled.isList then enabled.first else pure enabled
      if !enabled.isBool then return .unknown
      if enabled.truthy then return .passed
  return .failed

def hasModeAndKey (part : Value) (mode key : String) (right : Value → Bool) : Result Bool := do
  if !(← part.has mode) then return false
  if !(← part.has key) then return false
  return right (← part.firstOf mode)

/-- The keys told are those of the first test that a part passes. -/
def partEncrypted (settings : Value) (start name : String) (tell : List String → Audit Unit)
    (tests : List (List String × (Value → Result Bool) × Bool)) : Audit Bool := do
  let some part ← settings.reach? name | return false
  let part ← part.first
  for (keys,test,encrypted) in tests do
    if ← test part then
      tell (keys.map (s!"{start}/[0]/{name}/[0]/" ++ ·))
      return encrypted
  tell s!"{start}/[0]/{name}"
  return false

def noteAll (keys : List String) : Audit Unit := keys.forM note

def catalogEncrypted : Ruling := do
  let start := "data_catalog_encryption_settings"
  let some settings ← conf.firstOf? start | return .failed
  let atRest ← partEncrypted settings start "encryption_at_rest" inspect
    [(["catalog_encryption_mode","sse_aws_kms_key_id"],
      (hasModeAndKey · "catalog_encryption_mode" "sse_aws_kms_key_id" (· == "SSE-KMS")),true)]
  let mode := "return_connection_password_encrypted"
  let connection ← partEncrypted settings start "connection_password_encryption" noteAll
    [([mode,"aws_kms_key_id"],(hasModeAndKey · mode "aws_kms_key_id" (·.isTrue)),true),
      (mode,(hasModeAndKey · mode "aws_kms_key_id" (·.isFalse)),false)]
  return .passIf (atRest && connection)

def jobsEncrypted : Ruling := do
  let start := "encryption_configuration"
  let some settings ← conf.firstOf? start | return .failed
  let logs ← partEncrypted settings start "cloudwatch_encryption" inspect
    [(["kms_key_arn","cloudwatch_encryption_mode"],
      (hasModeAndKey · "cloudwatch_encryption_mode" "kms_key_arn" (· == "SSE-KMS")),true)]
  let bookmarks ← partEncrypted settings start "job_bookmarks_encryption" noteAll
    [(["job_bookmarks_encryption_mode","kms_key_arn"],
      (hasModeAndKey · "job_bookmarks_encryption_mode" "kms_key_arn" (· == "CSE-KMS")),true)]
  let buckets ← partEncrypted settings start "s3_encryption" noteAll
    [("s3_encryption_mode",(hasModeAndKey · "s3_encryption_mode" "s3_encryption_mode" (· != "DISABLED")),true)]
  return .passIf (logs && bookmarks && buckets)

def keyspaceEncryptionKey : Ruling := do
  if let .list (encryption::_) := conf.getD "encryption_specification" then
    if let .list (_::_) := ← encryption.get "kms_key_identifier" then
      if (encryption.getD "type").isOnly "CUSTOMER_MANAGED_KEY" then return .passed
  failAt "encryption_specification"

def deliveryEncrypted : Ruling := do
  if (conf.getD "kinesis_source_configuration").truthy then return .unknown
  if let some block ← conf.headOf? "server_side_encryption" then
    if isOn (← block.get "enabled") then return .passed
  failAt "server_side_encryption/[0]/enabled"

def deliveryEncryptionKey : Ruling := do
  if (conf.getD "kinesis_source_configuration").truthy then return .unknown
  let some block ← conf.headOf? "server_side_encryption" | return .failed
  if !isOn (← block.get "enabled") then return ← failAt "server_side_encryption/[0]/enabled"
  if !(block.getD "key_type").isOnly "CUSTOMER_MANAGED_CMK" then return ← failAt "server_side_encryption/[0]/key_type"
  let key := block.getD "key_arn"
  if key.falsy then return ← failAt "server_side_encryption/[0]/"
  if (← key.first).falsy then return ← failAt "server_side_encryption/[0]/key_arn"
  return .passed

def brokerAuditLogs : Ruling := do
  if (conf.getD "engine_type").isOnly "RabbitMQ" then return .unknown
  require "logs/[0]/audit" [true] .failed conf

def fullVersion := Text.Pattern.of "(\\d+\\.\\d+.\\d+)"

def shortVersion := Text.Pattern.of "(\\d+\\.\\d+)"

def brokerVersion : Ruling := do
  let some kind ← conf.headOf? "engine_type" | return .failed
  let version ← (← ((conf.get? "engine_version").getD (.list [""])).first).needText
  if !fullVersion.occursIn version then return .unknown
  let number := ((shortVersion.search? version).bind fun m => Decimal.float? m.whole).getD 0
  let kind ← kind.needText
  if Text.contains "ActiveMQ" kind && number ≥ 5.16 then return .passed
  if Text.contains "RabbitMQ" kind && number ≥ 3.8 then return .passed
  return .failed

def streamingTransitEncrypted : Ruling := do
  let some encryption ← conf.firstOf? "encryption_info" | return .failed
  if let some transit ← encryption.reach? ["encryption_in_transit"] then
    let transit ← transit.first
    if ← transit.has "client_broker" then
      if (← transit.firstOf "client_broker") != "TLS" then return .failed
    if ← transit.has "in_cluster" then
      if (← transit.firstOf "in_cluster").isFalse then return .failed
  return .passed

def streamingLogs : Ruling := do
  if let some info ← conf.firstOf? "logging_info" then
    if let some logs ← info.reach? ["broker_logs"] then
      let logs ← logs.first
      for target in ["cloudwatch_logs","firehose","s3"] do
        if ← logs.has target then
          let block ← logs.firstOf target
          if ← block.has "enabled" then
            if (← block.firstOf "enabled").isTrue then
              return ← passAt s!"logging_info/[0]/broker_logs/[0]/{target}/[0]/enabled"
  return .failed

def globalClusterEncrypted : Ruling := do
  if conf.hasKey "source_db_cluster_identifier" then return .unknown
  return .passIf ((← conf.firstOf? "storage_encrypted").any (·.truthy))

def databaseAuthentication : Ruling := do
  if !(conf.getD "engine").isOnlyOf ["mysql","postgres"] then return .unknown
  require "iam_database_authentication_enabled" [true] .failed conf

def versionParts (conf : Value) : Option (List (Option Int)) :=
  match conf.getD "engine_version" with
  | .list (.str s :: _) => some ((Text.split s ".").map Decimal.int?)
  | _ => none

def databaseVersion : Ruling := do
  inspect "engine"
  let engine := conf.getD "engine"
  if engine.isOnly "postgres" then
    note "engine_version"
    if let some (major :: minor :: rest) := versionParts conf then
      if rest.length ≤ 1 then
        match major, minor with
        | some major,some minor =>
          if major ≥ 14 || (major == 13 && minor > 2) || (major == 12 && minor > 6) ||
              (major == 11 && minor > 11) || (major == 10 && minor > 16) then return .passed
          if major == 9 && minor == 6 then
            match rest with
            | some fix :: _ => return .passIf (fix > 21)
            | _ => return .unknown
          return .failed
        | _,_ => return .unknown
  else if engine.isOnly "aurora-postgresql" then
    note "engine_version"
    if let some [major,minor] := versionParts conf then
      match major, minor with
      | some major,some minor =>
        return .passIf (major ≥ 12 || (major == 11 && minor > 8) || (major == 10 && minor > 13))
      | _,_ => return .unknown
  return .unknown

def bucketObjectLock : Ruling := do
  let some lock ← conf.headOf? "object_lock_configuration" | return .unknown
  if lock.falsy then return .unknown
  let enabled ← lock.get "object_lock_enabled"
  return .passIf (enabled == "Enabled" || enabled.isOnly "Enabled")

def queueEncrypted : Ruling := do
  if (conf.getD "sqs_managed_sse_enabled").truthy then return .passed
  require "kms_master_key_id" [anything] .failed conf

def secretEncryptionKey : Ruling := do
  match ((conf.get? "kms_key_id").getD (.list [])).listed.items with
  | [] => return .failed
  | key::_ =>
    if key.falsy then return .failed
    return .passIf !(← key.has "aws/")

end InfraAudit.Terraform.Aws
