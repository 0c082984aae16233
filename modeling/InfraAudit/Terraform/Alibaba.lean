import InfraAudit.Terraform.Aws.Identity

namespace InfraAudit.Terraform.Alibaba

open Audit Terraform.Aws

variable (conf : Value)

def apiOverTls : Ruling := do
  if let .list (config::configs) := conf.getD "request_config" then
    for (config,i) in (config::configs).zipIdx do
      if !(← config.get "protocol").isOnly "HTTPS" then return ← failAt s!"request_config/[{i}]/protocol"
    return .passed
  failAt ""

def isEncrypted (conf : Value) : Bool := conf.getD "encrypted" == .list [true]

def diskEncrypted : Ruling := do
  if (conf.getD "snapshot_id").truthy then return .unknown
  return .passIf (isEncrypted conf)

def diskHasOwnKey : Ruling := do
  if (conf.getD "snapshot_id").truthy then return .unknown
  return .passIf (isEncrypted conf && (conf.getD "kms_key_id").truthy)

def shares (conf nets : Value) (key : String) : Result Bool := do
  (← (← (conf.getD key).first).elems).anyM nets.holds

def networkPolicy : Ruling := do
  let podNets := conf.getD "pod_vswitch_ids"
  if podNets.falsy && (conf.getD "pod_cidr").falsy then return .failed
  let addons := conf.getD "addons"
  if addons.falsy || !addons.isList then return ← failAt "addons"
  let mut names : List Value := []
  for addon in addons.items do
    if (← addon.get "name").truthy then names := names ++ [← addon.firstOf "name"]
  if (Value.str "terway-eniip").elem names then
    if podNets.truthy && podNets.isList then
      let nets ← podNets.first
      if (conf.getD "worker_vswitch_ids").isList && (conf.getD "master_vswitch_ids").isList then
        if ← shares conf nets "worker_vswitch_ids" then return ← failAt "worker_vswitch_ids"
        if ← shares conf nets "master_vswitch_ids" then return ← failAt "master_vswitch_ids"
        return .passed
    return ← failAt "pod_vswitch_ids"
  if (Value.str "flannel").elem names && (conf.getD "pod_cidr").truthy then return .passed
  failAt "addons/[0]/config"

def dataDisksEncrypted : Ruling := do
  failIfAny (conf.getD "data_disks").items fun disk => return (← disk.get "encrypted") != .list [true]

variable (key : String)

def addressesLimited : Scan := fun conf => do
  if let .list (addresses::_) := conf.getD key then
    let everywhere ← addresses.has "0.0.0.0"
    if everywhere || (← addresses.has "0.0.0.0/0") then return ← failAt [key]
  return .passed

def loginAttempts : Ruling := do
  let some attempts ← conf.headOf? "max_login_attempts" | return .passed
  let some n := intOf? attempts | return .unknown
  if n ≤ 5 then return .passed
  failAt "max_login_attempts"

def parameterOn (name : String) : Scan := fun conf => do
  for parameter in (conf.getD "parameters").items do
    if (← parameter.firstOf "name") == .str name then
      if (← parameter.firstOf "value") == "ON" then return .passed
  return .failed

def statementsKept : Ruling := do
  if let .list (status::_) := conf.getD "sql_collector_status" then
    if status != "Enabled" then return ← failAt "sql_collector_status"
    if let .list (days::_) := conf.getD "sql_collector_config_value" then
      inspect "sql_collector_config_value"
      if ← days.ge (.int 180) then return .passed
  return .failed

def encryptingVersions :=
  ["5.6","5.7","8","8.0","08r2_ent_ha","2012_ent_ha","2016_ent_ha","2017_ent","2019_std_ha","2019_ent"]

def databaseEncrypted : Ruling := do
  if (conf.getD "engine").isOnlyOf ["MySQL","SQLServer"] then
    if let .list (version::_) := conf.getD "engine_version" then
      if version.isOneOf encryptingVersions then
        if (conf.getD "tde_status").isOnly "Enabled" then return .passed
        return ← failAt "engine_version"
  return .unknown

def portRange (conf : Value) : Option (Int × Int) := do
  let range ← ((conf.getD "port_range").listed.first).toOption
  let parts := Text.split (← range.text?) "/"
  let lower ← parts[0]?
  let upper ← parts[1]?
  return (← intOf? (.str lower),← intOf? (.str upper))

def opens (port : Int) (conf : Value) : Result Bool := do
  match portRange conf with
  | none => return false
  | some (a,b) =>
    if a == 0 || b == 0 || port < a || b < port then return false
    let blocks := ((conf.get? "cidr_ip").getD (.list [.list []])).listed
    if ← blocks.has "0.0.0.0/0" then return true
    return (← blocks.first).falsy

def ingressClosed (port : Int) : Scan := fun conf => do
  let some type := conf.get? "type" | return .passed
  if (← type.listed.first) != "ingress" then return .unknown
  inspect ["port_range","cidr_ip"]
  if (conf.getD "port_range").falsy then return .passed
  return .passIf !(← opens port conf)

def passwordPolicy := ["ram_account_password_policy"]

def requires (id what kind : String) : Check :=
  expects id ("RAM password policy requires at least one " ++ what) passwordPolicy ("require_" ++ kind)

def checks : List Check := Check.under "CKV_ALI_" "alicloud_" [
  forbids "29" "=Alibaba ALB ACL does not restrict Access" "alb_acl_entry_attachment" "entry" ["0.0.0.0/0"],
  .of "21" "API Gateway API Protocol HTTPS" "api_gateway_api" apiOverTls,
  expects "5" "Action Trail Logging for all events" "actiontrail_trail" "event_rw" ["All"],
  expects "4" "Action Trail Logging for all regions" "actiontrail_trail" "trail_region" ["All"] .passed,
  .of "8" "Disk is encrypted with Customer Master Key" "disk" diskHasOwnKey,
  .of "7" "disk is encrypted" "disk" diskEncrypted,
  .of "26" "Kubernetes installs plugin Terway or Flannel to support standard policies" "cs_kubernetes" networkPolicy,
  expects "31" "K8s nodepools are set to auto repair" "cs_kubernetes_node_pool" "management/auto_repair",
  expects "28" "KMS Keys are enabled" "kms_key" "status" ["Enabled"] .passed,
  expects "27" "KMS Key Rotation is enabled" "kms_key" "automatic_rotation" ["Enabled"],
  .of "32" "launch template data disks are encrypted" "ecs_launch_template" dataDisksEncrypted,
  expects "38" "log audit is enabled for RDS" "log_audit" "variable_map/[0]/rds_enabled",
  expects "41" "MongoDB is deployed inside a VPC" "mongodb_instance" "network_type" ["VPC"],
  expects "42" "Mongodb instance uses SSL" "mongodb_instance" "ssl_action" ["Open","Update"],
  .of "43" "MongoDB instance is not public" "mongodb_instance" (addressesLimited "security_ip_list"),
  expects "44" "MongoDB has Transparent Data Encryption Enabled" "mongodb_instance" "tde_status" ["enabled"],
  needs "12" "the OSS bucket has access logging enabled" "oss_bucket" "logging",
  needs "6" "OSS bucket is encrypted with Customer Master Key" "oss_bucket"
    "server_side_encryption_rule/[0]/kms_master_key_id",
  forbids "1" "=Alibaba Cloud OSS bucket accessible to public" "oss_bucket" "acl" ["public-read","public-read-write"],
  expects "11" "OSS bucket has transfer Acceleration enabled" "oss_bucket" "transfer_acceleration/[0]/enabled",
  expects "10" "OSS bucket has versioning enabled" "oss_bucket" "versioning/[0]/status" ["Enabled"],
  .onKeys "16" "RAM password policy expires passwords within 90 days or less" passwordPolicy
    "max_password_age" passwordAge,
  .onKeys "13" "RAM password policy requires minimum length of 14 or greater" passwordPolicy
    "minimum_password_length" (passwordAtLeast "minimum_password_length" 14),
  requires "17" "lowercase letter" "lowercase_characters",
  .onKeys "23" "Ram Account Password Policy Max Login Attempts not > 5" passwordPolicy
    "max_login_attempts" loginAttempts,
  requires "14" "number" "numbers",
  .onKeys "18" "RAM password policy prevents password reuse" passwordPolicy
    "password_reuse_prevention" (passwordAtLeast "password_reuse_prevention" 24),
  requires "15" "symbol" "symbols",
  requires "19" "uppercase letter" "uppercase_characters",
  expects "24" "RAM enforces MFA" "ram_security_preference" "enforce_mfa_for_login",
  expects "30" "RDS instance auto upgrades for minor versions" "db_instance" "auto_upgrade_minor_version" ["Auto"],
  expects "34" "RDS instance is set to auto upgrade minor versions" "db_instance" "auto_upgrade_minor_version"
    ["Auto"],
  .of "37" "RDS instance has log_connections enabled" "db_instance" (parameterOn "log_connections"),
  .of "36" "RDS instance has log_disconnections enabled" "db_instance" (parameterOn "log_disconnections"),
  .of "35" "RDS instance has log_duration enabled" "db_instance" (parameterOn "log_duration"),
  expects "20" "RDS instance uses SSL" "db_instance" "ssl_action" ["Open","Update"],
  .of "9" "database instance is not public" "db_instance" (addressesLimited "security_ips"),
  .of "25" "RDS Instance SQL Collector Retention Period should be greater than 180" "db_instance" statementsKept,
  .onKeys "22" "Transparent Data Encryption is Enabled on instance" "db_instance" "tde_status" databaseEncrypted,
  closedTo "2" "security groups" 22 "security_group_rule" ingressClosed,
  closedTo "3" "security groups" 3389 "security_group_rule" ingressClosed,
  forbids "33" "=Alibaba Cloud Cypher Policy are secure" "slb_tls_cipher_policy" "tls_versions" ["TLSv1.1","TLSv1.0"]]

end InfraAudit.Terraform.Alibaba
