import InfraAudit.Terraform.Check
import InfraAudit.Secrets

namespace InfraAudit.Terraform.Azure

open Audit

variable (conf : Value)

def givenTruthy (key : String) : Result Bool := do
  return (← conf.firstOf? key).any (·.truthy)

def firstOr (key : String) (d : Value) : Result Value := do
  return (← conf.firstOf? key).getD d

def registryNotAnonymous : Ruling := do
  if (← conf.firstOf? "sku").any (·.isOneOf ["Standard","Premium"]) then
    return .passIf !(← givenTruthy conf "anonymous_pull_enabled")
  return .passed

def clusterAddressesLimited : Ruling := do
  if ← givenTruthy conf "private_cluster_enabled" then return .passed
  require "api_server_authorized_ip_ranges/[0]" [anything] .failed conf

def addonProfile : Result (Option Value) := do
  return (← conf.headOf? "addon_profile").filter fun p => p.truthy && p.isDict

def dashboardOff : Ruling := do
  let profile ← addonProfile conf
  inspect "addon_profile"
  if let some profile := profile then
    let dashboard ← firstOr profile "kube_dashboard" (.list [])
    if dashboard.isDict then
      if (← (dashboard.getD "enabled").first).truthy then
        return ← failAt ["addon_profile/kube_dashboard","addon_profile/kube_dashboard/[0]/enabled"]
  return .passed

def agentOn : Ruling := do
  if !(← conf.search "addon_profile/[0]/oms_agent/[0]/enabled").isEmpty then
    return ← require "addon_profile/[0]/oms_agent/[0]/enabled" [true] .failed conf
  return .passIf (!(← conf.search "oms_agent/[0]/log_analytics_workspace_id").isEmpty)

def roleBasedAccess : Ruling := do
  let keys := ["role_based_access_control/[0]/enabled","role_based_access_control_enabled"]
  inspect keys
  for key in keys do
    if let some v ← conf.at? key then
      if (← v.first).truthy then return .passed
  return .failed

def policyAddon : Ruling := do
  if (← firstOr conf "azure_policy_enabled" .null).truthy then return ← passAt "azure_policy_enabled"
  inspect "addon_profile/[0]/azure_policy/[0]/enabled"
  if let some profile ← addonProfile conf then
    let policy ← firstOr profile "azure_policy" .null
    if policy.truthy && policy.isDict then
      if (← firstOr policy "enabled" .null).truthy then return .passed
  return .failed

def clientCertificates : Ruling := do
  if (conf.getD "sku_name").isOnly "Consumption" then
    if conf.getD "client_certificate_enabled" == .list [true] then return .passed
    return ← failAt "/client_certificate_enabled/"
  return .unknown

def standardTier (kind : String) : Scan := fun conf => do
  if (← firstOr conf "resource_type" .null) != .str kind then return .passed
  return .passIf ((← firstOr conf "tier" .null) == "Standard")

def passwordLoginOff : Ruling := do
  if let some linux ← conf.firstOf? "os_profile_linux_config" then
    match if linux.isDict then linux.get? "disable_password_authentication" else none with
    | some disabled =>
      inspect "os_profile_linux_config/[0]/disable_password_authentication"
      if disabled == .list [false] then return .failed
    | none => inspect "os_profile_linux_config"
  if (← firstOr conf "disable_password_authentication" true).falsy then
    note "disable_password_authentication"
    return .failed
  return .passed

def diskEncrypted : Ruling := do
  if conf.hasKey "disk_encryption_set_id" then return ← passAt "disk_encryption_set_id"
  if let some settings ← conf.firstOf? "encryption_settings" then
    if settings.isDict then
      inspect "encryption_settings/[0]/enabled"
      return .passIf ((← settings.field "enabled") == .list [true])
  return .passed

def fabricProtection : Ruling := do
  inspect "fabric_settings"
  let settings := (conf.getD "fabric_settings").listed
  for setting in settings.items do
    if setting.truthy then
      if (← setting.get "name").isOnly "Security" then
        let parameters ← firstOr setting "parameters" (.dict [])
        if (← parameters.get "name") == "ClusterProtectionLevel" && parameters.getD "value" == "EncryptAndSign" then
          let i ← settings.indexOf setting
          return ← passAt [s!"fabric_settings/[{i}]/parameters/[0]/name",s!"fabric_settings/[{i}]/parameters/[0]/value"]
  return .failed

def roleWithoutWildcard : Ruling := do
  let actions ← (← firstOr conf "permissions" (.dict [])).getOr "actions" (.list [""])
  if actions.falsy then return .passed
  return .passIf !(← (← actions.first).has "*")

def factoryUsesRepository : Ruling := do
  for kind in ["github_configuration","vsts_configuration"] do
    let repository ← firstOr conf kind (.dict [])
    if repository.isDict && (repository.getD "repository_name").truthy then
      return ← passAt [kind ++ "/[0]/repository_name"]
  failAt ["github_configuration","vsts_configuration"]

def vaultRecoverable : Ruling := do
  if ← givenTruthy conf "purge_protection_enabled" then
    return .passIf (← firstOr conf "soft_delete_enabled" true).truthy
  return .failed

def publicAccessOff : Ruling := do
  return .passIf (← firstOr conf "public_network_access_enabled" true).falsy

def logCategories : Ruling := do
  if let .list (_::_) := conf.getD "categories" then
    return .passIf (← (← conf.firstOf "categories").holdsAll ["Write","Delete","Action"])
  return .failed

def logRetention : Ruling := do
  let some retention ← conf.headOf? "retention_policy" | failAt "retention_policy"
  inspect "retention_policy/[0]/enabled"
  if (← retention.firstOf "enabled").truthy then
    note "retention_policy/[0]/days"
    if ← retention.has "days" then
      match intOf? (← retention.firstOf "days") with
      | some n => return .passIf (n ≥ 365)
      | none => throw .wrongKind
    return .failed
  if ← retention.has "days" then note "retention_policy/[0]/days"
  return .passed

def settingNotOff (name : String) : Scan := fun conf => do
  if (← conf.firstOf "name") == .str name then return .passIf ((← conf.firstOf "value") != "off")
  return .passed

def noAlertDisabled : Ruling := do
  let some alerts ← conf.firstOf? "disabled_alerts" | return .passed
  return .passIf !((← alerts.elems).any (·.truthy))

def networkRules : Audit (Value × String) := do
  match conf.get? "network_rules" with
  | some rules =>
    inspect "network_rules"
    return (← rules.first,"network_rules/[0]/")
  | none => return (conf,"")

def trustedServicesPass : Ruling := do
  let (rules,start) ← networkRules conf
  if ← rules.has "default_action" then
    if (← rules.firstOf "default_action") == "Allow" then return ← passAt [start ++ "default_action"]
    if (← rules.get "bypass").truthy then
      inspect [start ++ "bypass"]
      return .passIf (← (← rules.firstOf "bypass").has "AzureServices")
  return .passed

def deniesByDefault : Ruling := do
  let (rules,start) ← networkRules conf
  if ← rules.has "default_action" then
    inspect [start ++ "default_action"]
    if (← rules.firstOf "default_action") == "Deny" then return .passed
  return .failed

def queueLogging : Ruling := do
  inspect "account_kind"
  if let some kind := conf.get? "account_kind" then
    if !(← kind.first).isOneOf ["Storage","StorageV2"] then return .passed
  if let some properties ← conf.firstOf? "queue_properties" then
    if let some logging ← properties.reach? ["logging"] then
      let logging ← logging.first
      let key := "queue_properties/[0]/logging/[0]"
      inspect [key]
      let kinds := ["delete","write","read"]
      let logged ← kinds.mapM fun k => do (← logging.getOr k (.list [false])).first
      if logged.all (·.truthy) then return ← passAt (kinds.map (s!"{key}/{·}"))
  return .failed

def recentTls : Ruling := do
  return .passIf ((← conf.firstOf? "min_tls_version").any (·.isOneOf ["TLS1_2","TLS1_3"]))

def accountName := Text.Pattern.of "^[a-z0-9]\x7b3,24\x7d$"

def generatedNames := ["local.","module.","var.","random_string.","random_id.","random_integer.","random_pet."]

def storageName : Ruling := do
  let some name ← conf.headOf? "name" | return .failed
  let name := name.display
  if generatedNames.any (Text.contains name ·) then return .unknown
  return .passIf (accountName.occursIn name)

def machineDataWithoutSecrets (id : String) : Scan := fun conf => do
  if let some profile ← conf.headOf? "os_profile" then
    if profile.isDict then
      if let some data ← profile.headOf? "custom_data" then
        if data.text?.any (Secrets.occurIn · []) then return ← secretless data id
  return .passed

def scaleSetUpgrades : Ruling := do
  if ← givenTruthy conf "automatic_os_upgrade" then
    if ← givenTruthy conf "os_profile_windows_config" then
      let windows ← conf.firstOf "os_profile_windows_config"
      inspect "os_profile_windows_config"
      if ← windows.has "enable_automatic_upgrades" then
        if (← windows.firstOf "enable_automatic_upgrades").truthy then
          return ← passAt ["automatic_os_upgrade","os_profile_windows_config/[0]/enable_automatic_upgrades"]
  return .failed

def managedDisks : Ruling := do
  let disks := ["storage_os_disk","storage_data_disk"].filter fun k => (conf.getD k).truthy
  for key in disks do
    if ← (← conf.firstOf key).has "vhd_uri" then return ← failAt [key]
  inspect disks
  return .passed

end InfraAudit.Terraform.Azure
