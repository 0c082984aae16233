import InfraAudit.Terraform.Check

namespace InfraAudit.Terraform.Google

open Audit Text.Pattern

def publicPrincipals := ["allUsers","allAuthenticatedUsers"]

def grants (id what owner : String) : Check :=
  .byType id s!"that {what} are not anonymously or publicly accessible" [owner ++ "_iam_member",owner ++ "_iam_binding"] fun kind conf => do
    if kind == s!"google_{owner}_iam_member" then
      let some member := conf.get? "member" | return .silent
      return .passIf (!(← member.first).isOneOf publicPrincipals)
    if kind == s!"google_{owner}_iam_binding" then
      let some members := conf.get? "members" | return .silent
      return .passIf (!(← (← members.first).elems).any (·.isOneOf publicPrincipals))
    return .silent

def impersonationRoles :=
  ["roles/owner","roles/editor","roles/iam.securityAdmin","roles/iam.serviceAccountAdmin",
    "roles/iam.serviceAccountKeyAdmin","roles/iam.serviceAccountUser","roles/iam.serviceAccountTokenCreator",
    "roles/iam.workloadIdentityUser","roles/dataproc.editor","roles/dataproc.admin",
    "roles/dataflow.developer","roles/resourcemanager.folderAdmin","roles/resourcemanager.folderIamAdmin",
    "roles/resourcemanager.projectIamAdmin","roles/resourcemanager.organizationAdmin",
    "roles/serverless.serviceAgent","roles/dataproc.serviceAgent"]

variable (conf : Value)

def noImpersonation : Ruling := do
  inspect "role"
  return .passIf !((← conf.firstOf? "role").any (·.isOneOf impersonationRoles))

def defaultAccount : Text.Pattern :=
  of ".*-compute@developer\\.gserviceaccount\\.com|.*@appspot\\.gserviceaccount\\.com"

def noDefaultAccount : Ruling := do
  let members ← conf.firstOf? "members"
  inspect (if members.isSome then "members" else "member")
  let members := members.getD ((conf.get? "member").getD (.list []))
  return .passIf (!(← members.elems).any fun m => defaultAccount.matches? m.display)

def serviceAccount := of ".*@.*\\.iam\\.gserviceaccount\\.com$"

def adminRole := of ".*(.*Admin|.*admin|editor|owner)"

def serviceAccountNotAdmin : Ruling := do
  if let some member := conf.get? "member" then
    if serviceAccount.matches? (← member.first).display then
      return .passIf (!adminRole.matches? (← conf.firstOf "role").display)
  return .passed

def roleNotProjectWide : Ruling := do
  let some role ← conf.firstOf? "role" | return .failed
  return .passIf !(role.isOneOf ["roles/iam.serviceAccountUser","roles/iam.serviceAccountTokenCreator"])

def bucketNotPublic : Ruling := do
  let members ← ((conf.get? "members").getD (.list [.list []])).first
  let members := if members.isList then members else .list []
  let all ← ((conf.get? "member").getD (.list [])).append members
  return .passIf (!(← all.has "allUsers") && !(← all.has "allAuthenticatedUsers"))

def plainFlag (flag : Value) : Result Value := do
  let entries ← (← flag.elems).mapM fun k => do return (k,← (← flag.item k).first)
  return Value.ofEntries (Value.insertAll entries [])

def plainFlags (flags : Value) : Result Value := do return .list (← (← flags.elems).mapM plainFlag)

def flagNotBad (engine name : String) (bad : Value → Bool) : Scan := fun conf => do
  let some version := conf.get? "database_version" | return .unknown
  let some version := (← version.first).text? | return .unknown
  if !Text.contains version engine then return .unknown
  let engineKey := "database_version/[0]/" ++ engine
  if let some settings := conf.get? "settings" then
    inspect [engineKey,"settings"]
    let flags ← (← settings.first).get "database_flags"
    if flags.truthy then
      let nested := (← flags.first).isList
      let start := "settings/[0]/database_flags" ++ (if nested then "/[0]" else "")
      let flags ← if nested then flags.first else plainFlags flags
      for flag in ← flags.elems do
        if (← flag.field "name") == .str name then
          if bad (← flag.field "value") then
            let i ← flags.indexOf flag
            return ← failAt [engineKey,s!"{start}/[{i}]/name",s!"{start}/[{i}]/value"]
      inspect [engineKey,"settings/[0]/database_flags"]
  return .passed

def messageLevels :=
  ["fatal","panic","log","error","warning","notice","info","debug1","debug2","debug3","debug4","debug5"]

def databaseBackup : Ruling := do
  if conf.hasKey "master_instance_name" then return .unknown
  require "settings/[0]/backup_configuration/[0]/enabled" [true] .failed conf

def addressBlock (conf : Value) : Result (Option Value) := do
  let some settings ← conf.firstOf? "settings" | return none
  (← settings.reach? "ip_configuration").mapM (·.first)

def databaseNotPublic : Ruling := do
  let some block ← addressBlock conf | return .passed
  let start := "settings/[0]/ip_configuration"
  inspect [start]
  if ← block.has "authorized_networks" then
    let networks := (← block.field "authorized_networks").listed
    for network in ← networks.elems do
      if let some v ← network.reach? ["value"] then
        let v ← if v.isList then v.first else pure v
        if ← v.endsWith "/0" then
          let i ← networks.indexOf network
          return ← failAt [start ++ "/authorized_networks/[0]/value",start ++ s!"/authorized_networks/[0]/[{i}]/value"]
  if let some dynamics ← block.reach? ["dynamic"] then
    for dynamic in ← dynamics.elems do
      if let some networks ← dynamic.reach? ["authorized_networks"] then
        if let some content ← networks.reach? ["content"] then
          let content ← content.first
          if ← content.has "value" then
            if ← (← content.firstOf "value").endsWith "/0" then
              let i ← dynamics.indexOf dynamic
              return ← failAt [start ++ s!"/dynamic/[{i}]/authorized_networks/content/[0]/value"]
  return .passed

def databaseWithoutPublicAddress : Ruling := do
  if let some block ← addressBlock conf then
    if let some enabled ← block.reach? ["ipv4_enabled"] then
      let enabled ← if enabled.isList then enabled.first else pure enabled
      if enabled.truthy then
        return ← failAt ["database_version/[0]/SQLSERVER","settings/[0]/ip_configuration/[0]/ipv4_enabled"]
  return .passed

def basicAuthenticationOff : Ruling := do
  let some auth ← conf.firstOf? "master_auth" | return .failed
  let username ← auth.get "username"
  let password ← auth.get "password"
  if username.falsy && password.falsy then return .passed
  if username.truthy && password.truthy then
    if (← username.first) == "" then return .passIf ((← password.first) == "")
  return .failed

def clusterLogging : Ruling := do
  return .passIf ((← conf.firstOf? "logging_service") != some "none")

def shieldedNodes (setting : String) (absent : Verdict) : Scan := fun conf => do
  let some node ← conf.firstOf? "node_config" | return .unknown
  if node.isDict then
    if let some shield := node.get? "shielded_instance_config" then
      return .passIf ((← (← shield.first).get setting) == .list [true])
  return absent

def clusterLabels : Ruling := do
  return .passIf ((← conf.firstOf? "resource_labels").any fun labels => labels.isDict && labels.truthy)

def clusterVersion : Ruling := do
  return .passIf (((← conf.firstOf? "min_master_version").bind floatOf?).any fun x => x != 0 && x ≥ 1.12)

def metadataServer : Ruling := do
  if let some node ← conf.firstOf? "node_config" then
    if node.isDict then
      if let some metadata := node.get? "workload_metadata_config" then
        for block in (← metadata.first).listed.items do
          if (← block.get "mode").isOnly "GKE_METADATA" then return .passed
          if (← block.get "node_metadata").isOnly "GKE_METADATA_SERVER" then return .passed
  return .failed

def networkPolicy : Ruling := do
  if let some policy ← conf.firstOf? "network_policy" then
    if ← policy.has "enabled" then
      if (← (← policy.get "enabled").first).truthy then return .passed
      if (conf.getD "datapath_provider").isOnly "ADVANCED_DATAPATH" then return .passed
  return .failed

def authorizedNetworks : Ruling := do
  if let some networks := conf.get? "master_authorized_networks_config" then
    inspect "master_authorized_networks_config"
    let networks ← networks.first
    if networks.isDict then
      if let some blocks := networks.get? "cidr_blocks" then
        for block in ← blocks.elems do
          if block.isDict then
            if ← (← block.field "cidr_block").has "0.0.0.0/0" then
              let i ← blocks.indexOf block
              return ← failAt s!"master_authorized_networks_config/[0]/cidr_blocks/[{i}]/cidr_block"
        inspect "master_authorized_networks_config/[0]/cidr_blocks"
  return .passed

def containerOptimizedImage : Ruling := do
  if let some node ← conf.firstOf? "node_config" then
    inspect "node_config"
    if !node.isDict then return .unknown
    let image ← ((node.get? "image_type").getD (.list [""])).first
    if Text.startsWith (← image.lowered) "cos" then return ← passAt "node_config/[0]/image_type"
    if (← conf.firstOf? "remove_default_node_pool").any (·.truthy) then
      note "remove_default_node_pool"
      return .passed
  return .failed

end InfraAudit.Terraform.Google
