import InfraAudit.Terraform.Check

namespace InfraAudit.Terraform.Google

open Audit

variable (port : Int) (conf : Value)

def firewallStopsCanary : Ruling := do
  inspect "rule"
  let rules := conf.getD "rule"
  for (rule,i) in rules.filledItems.zipIdx do
    let key := s!"rule/[{i}]/"
    inspect [key ++ "action",key ++ "preview",key ++ "match/[0]/expr/[0]/expression"]
    let condition ← rule.get "match"
    if condition.truthy then
      let expr ← (← condition.first).get "expr"
      if expr.truthy then
        if (← (← expr.first).get "expression").isOnly "evaluatePreconfiguredExpr('cve-canary')" then
          if (← rule.get "action").isOnly "allow" then return .failed
          return .passIf ((← rule.get "preview") != .list [true])
  return .failed

def bucketLogs : Ruling := do
  let some logging ← conf.firstOf? "logging" | return .failed
  if logging.falsy then return .failed
  return .passIf (← logging.field "log_bucket").truthy

def bucketLogsElsewhere : Ruling := do
  let some logging := conf.get? "logging" | return .unknown
  inspect "logging"
  let logging ← logging.first
  if logging.falsy then return .failed
  let target ← logging.field "log_bucket"
  inspect ["logging/[0]/log_bucket","name"]
  return .passIf (target != conf.getD "name")

def datasetNotPublic : Ruling := do
  if let some accesses := conf.get? "access" then
    for access in ← accesses.elems do
      if ← access.has "special_group" then
        if (← access.field "special_group").isOnlyOf ["allAuthenticatedUsers","allUsers"] then
          let i ← accesses.indexOf access
          return ← failAt s!"access/[{i}]/special_group"
      else
        if !(← anyOf ["user_by_email","group_by_email","domain","view"] access.has) then
          let i ← accesses.indexOf access
          return ← failAt s!"access/[{i}]"
    inspect "access"
  return .passed

def zoneKeysStrong : Ruling := do
  if let some config ← conf.firstOf? "dnssec_config" then
    inspect "dnssec_config"
    if let some specs ← config.reach? ["default_key_specs"] then
      for spec in ← specs.elems do
        if ← spec.has "algorithm" then
          if (← spec.field "algorithm").isOnly "rsasha1" then
            let i ← specs.indexOf spec
            return ← failAt s!"dnssec_config/[0]/default_key_specs/[{i}]/algorithm"
      inspect "dnssec_config/[0]/default_key_specs"
  return .passed

def zoneSigned : Ruling := do
  if (← conf.firstOf? "visibility") == some "private" then return .unknown
  require "dnssec_config/[0]/state" ["on","transfer"] .failed conf

def metadataFromTemplate (setting : String) : Result Bool := do
  if !conf.hasKey "source_instance_template" then return false
  let some metadata ← conf.firstOf? "metadata" | return true
  return metadata.isDict && !metadata.hasKey setting

def fromTemplate (key : String) : Bool := conf.hasKey "source_instance_template" && !conf.hasKey key

def unlessInherited (setting : String) (scan : Scan) : Scan := fun conf => do
  if ← metadataFromTemplate conf setting then return .unknown else scan conf

def projectKeysBlocked : Scan :=
  unlessInherited "block-project-ssh-keys" (require "metadata/block-project-ssh-keys" [true] .failed)

def loginNotDisabled : Scan := unlessInherited "enable-oslogin" (forbid "metadata/[0]/enable-oslogin" [false] .passed)

def serialPortOff : Scan := unlessInherited "serial-port-enable" (forbid "metadata/[0]/serial-port-enable" [true] .passed)

def bootDiskEncrypted : Ruling := do
  inspect ["boot_disk","boot_disk/[0]/disk_encryption_key_raw","boot_disk/[0]/kms_key_self_link"]
  let some disk ← conf.firstOf? "boot_disk" | return .failed
  if ← disk.has "disk_encryption_key_raw" then return .passed
  return .passIf (← disk.has "kms_key_self_link")

def defaultComputeAccount := Text.Pattern.of "\\d+-compute@developer\\.gserviceaccount\\.com"

def isClusterNode : Result Bool := do
  ((← conf.firstOf? "name").map (·.startsWith "gke-")).getD (return false)

def ownServiceAccount : Ruling := do
  if let some account ← conf.firstOf? "service_account" then
    if ← account.has "email" then
      if !defaultComputeAccount.matches? (← (← account.firstOf "email").needText) then
        return ← passAt "service_account/[0]/email"
  if ← isClusterNode conf then return ← passAt "name"
  inspect ["service_account/[0]/email","name"]
  return if fromTemplate conf "service_account" then .unknown else .failed

def hasFullScope (account : Value) : Result Bool := do
  let scopes ← account.field "scopes"
  if (← scopes.size) == 0 then return false
  (← scopes.first).has "https://www.googleapis.com/auth/cloud-platform"

def defaultAccountLimited : Ruling := do
  if ← isClusterNode conf then return ← passAt "name"
  if fromTemplate conf "service_account" then return .unknown
  if let some account ← conf.firstOf? "service_account" then
    inspect "service_account"
    if account.isDict then
      inspect "service_account/[0]/scopes"
      if account.hasKey "email" then
        note "service_account/[0]/email"
        if defaultComputeAccount.matches? (← (← account.firstOf "email").needText) then
          if ← hasFullScope account then return .failed
      else if ← hasFullScope account then return .failed
  return .passed

def noPublicAddress : Ruling := do
  if fromTemplate conf "network_interface" then return .unknown
  forbid "network_interface/[0]/access_config" [anything] .passed conf

def noForwarding : Ruling := do
  if fromTemplate conf "can_ip_forward" then return .unknown
  forbidUnless "name" (·.startsWith "gke-") "can_ip_forward" [true] .passed conf

def rangeCovers (range : Value) : Result Bool := do
  match intOf? range with
  | some n => return n != 0 && n == port
  | none =>
    if range.falsy then return false
    if !(← range.has "-") then return false
    match range.text?.map (Text.split · "-") with
    | some [a,b] => match Decimal.int? a, Decimal.int? b with
      | some a,some b => return a ≤ port && port ≤ b
      | some a,none => return a ≤ port
      | none,_ => return true
    | _ => return true

def portsCover (ports : Value) : Result Bool := do
  if (← ports.size) == 0 then return false
  let first ← ports.first
  (← (if first.isList then first else ports).elems).anyM (rangeCovers port)

def blockOpens (conf block : Value) : Result Bool := do
  if !(← block.has "ports") then return false
  if !(← portsCover port (← block.field "ports")) then return false
  let sources := (conf.get? "source_ranges").getD (.list [])
  if sources.falsy then return false
  (← sources.first).has "0.0.0.0/0"

def openBlock? (blocks : List Value) : Result (Option Value) :=
  blocks.findM? fun block => if block.isText then pure true else blockOpens port conf block

def firewallClosed : Scan := fun conf => do
  let some blocks := conf.get? "allow" | return .passed
  inspect "allow"
  let blocks ← blocks.elems
  let some block ← openBlock? port conf blocks | return .passed
  let i := blocks.findIdx (· == block)
  if block.isText then
    inspect s!"allow/[{i}]"
    return .unknown
  failAt [s!"allow/[{i}]/ports","source_ranges"]

def weakCiphers :=
  ["TLS_RSA_WITH_AES_128_GCM_SHA256","TLS_RSA_WITH_AES_256_GCM_SHA384","TLS_RSA_WITH_AES_128_CBC_SHA",
    "TLS_RSA_WITH_AES_256_CBC_SHA","TLS_RSA_WITH_3DES_EDE_CBC_SHA"]

def strongCiphers : Ruling := do
  if let some profile := conf.get? "profile" then
    inspect "profile"
    let profile ← profile.first
    if profile == "RESTRICTED" then return .passed
    if profile == "MODERN" then
      if let some version := conf.get? "min_tls_version" then
        note "min_tls_version"
        if (← version.first) == "TLS_1_2" then return .passed
    else if profile == "CUSTOM" then
      note "custom_features"
      let features ← conf.firstOf "custom_features"
      if !(← anyOf weakCiphers features.has) then return .passed
  return .failed

def shieldedInstance : Ruling := do
  if fromTemplate conf "shielded_instance_config" then return .unknown
  let some shield := conf.get? "shielded_instance_config" | return .failed
  let start := "shielded_instance_config/[0]/"
  inspect ["shielded_instance_config",start ++ "enable_vtpm",start ++ "enable_integrity_monitoring"]
  let shield ← shield.first
  for setting in ["enable_vtpm","enable_integrity_monitoring"] do
    if ← shield.has setting then
      if (← shield.firstOf setting).falsy then return ← failAt [start ++ setting]
  return .passed

def keyRotated : Ruling := do
  inspect "rotation_period"
  let some period ← conf.headOf? "rotation_period" | return .failed
  if period.falsy then return .failed
  return .passIf ((intOf? (← period.sliced none (some (-1)))).any fun n => 86400 ≤ n && n ≤ 90*86400)

def privateAccessV6 : Ruling := do
  if (← conf.headOf? "stack_type").any (· != .str "IPV4_IPV6") then return .unknown
  require "private_ipv6_google_access"
    ["ENABLE_OUTBOUND_VM_ACCESS_TO_GOOGLE","ENABLE_BIDIRECTIONAL_ACCESS_TO_GOOGLE"] .failed conf

def flowLogs : Ruling := do
  if (← conf.headOf? "purpose") == some "INTERNAL_HTTPS_LOAD_BALANCER" then return .unknown
  require "log_config" [anything] .failed conf

end InfraAudit.Terraform.Google
