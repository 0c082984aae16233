import InfraAudit.Terraform.Check

namespace InfraAudit.Terraform

open Audit Check Text

namespace Github

variable (conf : Value)

def isTwo (count : Value) : Result Bool := do
  if !count.truthy || !count.isList then return false
  return (intOf? (← count.first)).any (2 ≤ ·)

def reviewsRequired : Ruling := do
  let reviews := conf.getD "required_pull_request_reviews"
  if reviews.truthy && reviews.isList then
    if ← isTwo (← (← reviews.first).get "required_approving_review_count") then return .passed
  failAt "required_pull_request_reviews/[0]/required_approving_review_count"

def isClosed (conf : Value) : Bool :=
  conf.getD "private" == .list [true] || (conf.getD "visibility").isOnlyOf ["private","internal"]

def repositoryClosed : Ruling := return .passIf (isClosed conf)

def alertsOn : Ruling := do
  if conf.getD "archived" == .list [true] then return .passed
  let alerts := conf.getD "vulnerability_alerts"
  if isClosed conf then return .passIf alerts.truthy
  return .passIf (alerts != .list [false])

def secretNotPlain : Ruling := do
  let plain := conf.getD "plaintext_value"
  if plain.truthy then
    if isDependent (← plain.first) then return .passed
  forbid "plaintext_value" [anything] .passed conf

def checks : List Check := under "CKV_GIT_" "github_" [
  expects "6" "all commits GPG signed" ["branch_protection_v3","branch_protection"] "require_signed_commits",
  .of "5" "at least two approving reviews for PRs" ["branch_protection_v3","branch_protection"] reviewsRequired,
  .of "1" "Repository is Private" "repository" repositoryClosed,
  .of "3" "GitHub repository has vulnerability alerts enabled" "repository" alertsOn,
  .onKeys "4" "Secrets are encrypted" ["actions_environment_secret","actions_organization_secret","actions_secret"]
    "plaintext_value" secretNotPlain,
  expects "2" "Repository Webhook uses secure Ssl" "repository_webhook" "configuration/[0]/insecure_ssl/[0]" [false]
    .passed]

end Github

def Gitlab.approvalsRequired : Scan := fun conf => do
  if ← Github.isTwo (conf.getD "approvals_before_merge") then return .passed
  failAt "approvals_before_merge"

def Gitlab.checks : List Check := under "CKV_GLB_" "gitlab_" [
  expects "2" "force push is disabled" "branch_protection" "allow_force_push" [false] .passed,
  .onSecrets (expects "3" "prevent secrets is enabled" "project" "push_rules/[0]/prevent_secrets"),
  expects "4" "commits are signed" "project" "push_rules/[0]/reject_unsigned_commits",
  .of "1" "at least two approving reviews to merge" "project" approvalsRequired]

def DigitalOcean.inboundLimited : Scan := fun conf => do
  inspect "inbound_rule"
  let rules := conf.getD "inbound_rule"
  if rules.truthy then
    for rule in (← rules.first).listed.items do
      if rule.truthy then
        let sources ← rule.get "source_addresses"
        if sources.truthy then
          for (i,source) in ← (← sources.first).enumerate do
            inspect s!"inbound_rule/[0]/source_addresses/[{i}]"
            if source.isOneOf ["0.0.0.0/0","::/0"] then return .failed
  return .passed

def DigitalOcean.checks : List Check := under "CKV_DIO_" "digitalocean_" [
  needs "2" "the droplet specifies an SSH key" "droplet" "ssh_keys",
  .of "4" "the firewall ingress is not wide open" "firewall" inboundLimited,
  forbids "3" "the Spaces bucket is private" "spaces_bucket" "acl" ["public-read"],
  expects "1" "the Spaces bucket has versioning enabled" "spaces_bucket" "versioning/[0]/enabled"]

def Linode.checks : List Check := under "CKV_LIN_" "linode_" [
  needs "2" "SSH key set in authorized_keys" "instance" "authorized_keys",
  expects "5" "Inbound Firewall Policy is not set to ACCEPT" "firewall" "inbound_policy" ["DROP"],
  expects "6" "Outbound Firewall Policy is not set to ACCEPT" "firewall" "outbound_policy" ["DROP"],
  needs "3" "email is set" "user" "email",
  needs "4" "username is set" "user" "username"]

namespace Openstack

def noAdminPassword (id : String) : Scan := fun conf => do
  let pass := conf.getD "admin_pass"
  secretless (← if pass.isList then pass.first else pure pass) id

def headUnder? (conf : Value) (key : String) : Result (Option Value) := do
  match ← conf.get key with
  | .null => if conf.hasKey key then return some .null else return none
  | v => return some (← v.listed.first)

def opens (port : Int) (conf : Value) (protocol lower upper range : String) : Result Bool := do
  let p ← headUnder? conf protocol
  let a ← headUnder? conf lower
  let b ← headUnder? conf upper
  if p == some "icmp" then return false
  match a.bind intOf?, b.bind intOf? with
  | some a,some b =>
    if !(a ≤ port && port ≤ b) then return false
    let range ← conf.getOr range (.list [])
    if (← range.size) == 0 then return false
    return (← range.first).isOneOf ["0.0.0.0/0","::/0","0000:0000:0000:0000:0000:0000:0000:0000/0"]
  | _,_ => return false

def groupClosed (port : Int) : Scan := fun conf => do
  if let some rules := conf.get? "rule" then
    for rule in ← rules.elems do
      if rule.isDict then
        if ← opens port rule "ip_protocol" "from_port" "to_port" "cidr" then
          let i ← rules.indexOf rule
          return ← failAt (["ip_protocol","from_port","to_port","cidr"].map fun k => s!"rule/[{i}]/{k}")
    return .passed
  if let some direction := conf.get? "direction" then
    if (← direction.listed.first) != "ingress" then return .unknown
    inspect ["protocol","port_range_min","port_range_max","remote_ip_prefix"]
    return .passIf !(← opens port conf "protocol" "port_range_min" "port_range_max" "remote_ip_prefix")
  return .passed

def checks : List Check := under "CKV_OPENSTACK_" "openstack_" [
  .onSecrets
    (.onKeys "4" "that instance does not use basic credentials" "compute_instance_v2" "admin_pass" (noAdminPassword "CKV_OPENSTACK_4")),
  forbids "5" "firewall rule set a destination IP" "fw_rule_v1" "destination_ip_address" ["0.0.0.0/0","0.0.0.0"]
    .failed,
  closedTo "2" "security groups" 22 ["compute_secgroup_v2","networking_secgroup_rule_v2"] groupClosed " (tcp / udp)",
  closedTo "3" "security groups" 3389 ["compute_secgroup_v2","networking_secgroup_rule_v2"] groupClosed " (tcp / udp)"]

end Openstack

namespace Credentials

def runOf (chars : String) (n : Nat) : Pattern :=
  Pattern.of s!"(?<![{chars}])[{chars}]\x7b{n}\x7d(?![{chars}])"

def accessKey : Pattern := runOf "A-Z0-9" 20

def secretKey : Pattern := runOf "A-Za-z0-9/+=" 40

def longToken : Pattern := runOf "A-Za-z0-9/+=" 64

def uuidToken := Pattern.of
  "^[a-f0-9]\x7b8\x7d-?[a-f0-9]\x7b4\x7d-?4[a-f0-9]\x7b3\x7d-?[89ab][a-f0-9]\x7b3\x7d-?[a-f0-9]\x7b12\x7d\\Z"

def firewallKey := Pattern.of "^LUFRPT1[a-zA-Z0-9]+==\\Z"

def keepMatch (conf : Value) (key : String) (p : Pattern) (place : String) : Audit Bool := do
  let some v ← conf.firstOf? key | return false
  if !v.text?.any (p.matches? ·) then return false
  keep place v
  return true

variable (id : String)

def accountKeys : Scan := fun conf => do
  let access ← keepMatch conf "access_key" accessKey (id ++ "_secret_access_key")
  let secret ← keepMatch conf "secret_key" secretKey (id ++ "_secret_secret_key")
  return .passIf (!access && !secret)

def noToken (p : Pattern) (id : String) : Scan := fun conf => do
  let some v := conf.get? "token" | return .passed
  let s ← (← v.first).needText
  if !p.matches? s then return .passed
  keep (id ++ "_secret") (.str s)
  return .failed

def noKeyPassword : Scan := fun conf => secretless (conf.getD "private_key_password") id

def keepFirst (conf : Value) (key place : String) : Audit Bool := do
  let v := conf.getD key
  if v.falsy then return false
  keep place (← v.first)
  return true

def noStackSecrets : Scan := fun conf => do
  let password ← keepFirst conf "password" (id ++ "_secret_1")
  let token ← keepFirst conf "token" (id ++ "_secret_2")
  let application ← keepFirst conf "application_credential_secret" (id ++ "_secret_3")
  return .passIf (!password && !token && !application)

def firewallKeyFound (conf : Value) : Audit Bool := do
  let some v ← conf.firstOf? "api_key" | return false
  if !v.isText then return true
  keepMatch conf "api_key" firewallKey (id ++ "_secret")

def noFirewallSecrets : Scan := fun conf => do
  let key ← firewallKeyFound id conf
  let password := conf.getD "password"
  if password.truthy then
    keep (id ++ "_secret_pwd") password
    return .failed
  return .passIf !key

def check (id name provider : String) (scan : String → Scan) : Check :=
  .onSecrets (.of id name [provider] (scan ("CKV_" ++ id)))

def checks : List Check := under "CKV_" "" [
  check "AWS_41" "no hard coded AWS access key and secret key exists in provider" "aws" accountKeys,
  check "LIN_1" "no hard coded Linode tokens exist in provider" "linode" (noToken longToken),
  check "BCW_1" "no hard coded API token exist in the provider" "bridgecrew" (noToken uuidToken),
  check "OCI_1" "no hard coded OCI private key in provider" "oci" noKeyPassword,
  check "OPENSTACK_1" "no hard coded OpenStack password, token, or application_credential_secret exists in provider"
    "openstack" noStackSecrets,
  check "PAN_1" "no hard coded PAN-OS credentials exist in provider" "panos" noFirewallSecrets]

end Credentials

namespace Oracle

variable (conf : Value)

def passwordLength : Ruling := do
  let some policy := conf.get? "password_policy" | return .failed
  inspect "password_policy"
  let rules ← policy.first
  if !(← rules.has "minimum_password_length") then return .failed
  let length ← (← rules.get "minimum_password_length").first
  if length.int?.any (· < 14) then failAt "password_policy/minimum_password_length" else return .passed

variable (port : Int)

def covers (range : Value) : Result Bool := do
  let upper := intOf? (← range.firstOf "max")
  let lower := intOf? (← range.firstOf "min")
  return lower.any (fun a => a != 0 && a ≤ port) && upper.any fun b => b != 0 && port ≤ b

def optionsOpen (options : Value) : Result Bool := do
  let some range ← (← options.first).reach? "source_port_range" | return true
  covers port (← range.first)

def groupOpens (conf : Value) : Result Bool := do
  let options := conf.getD "tcp_options"
  if options.isNull then return (← (conf.getD "protocol").first).isOneOf ["all","6"]
  if options.falsy then return false
  optionsOpen port options

def groupRuleClosed : Scan := fun conf => do
  let direction := conf.getD "direction"
  let source := conf.getD "source"
  inspect "direction"
  if direction.truthy then
    if (← direction.first) != "INGRESS" then return .unknown
  note "source"
  if source.truthy then
    if (← source.first) != "0.0.0.0/0" then return .passed
  if ← groupOpens port conf then
    note "protocol"
    return .failed
  return .passed

def groupRuleStateless : Ruling := do
  let stateless := conf.getD "stateless"
  inspect "direction"
  if (← (conf.getD "direction").first) != "INGRESS" then return .unknown
  note "stateless"
  if stateless.isNull then return .failed
  return .passIf (!(← stateless.first).isFalse)

def listStateless : Ruling := do
  let some rules := conf.get? "ingress_security_rules" | return .skipped
  inspect "ingress_security_rules"
  let head ← rules.first
  let nested := head.isList
  for (i,rule) in ← (if nested then head else rules).enumerate do
    if !rule.isDict then throw .noMember
    if let some stateless := rule.get? "stateless" then
      if stateless != .list [true] && !stateless.isTrue then
        inspect [if nested then s!"ingress_security_rules/[{i}]/stateless"
          else s!"ingress_security_rules/[0]/[{i}]/stateless"]
        return .failed
  return .passed

def listOptionsOpen (rule : Value) (name : String) (i : Nat) : Audit Bool := do
  if ← rule.has name then
    if ← covers port (← rule.firstOf name) then return true
  inspect s!"ingress_security_rules/[0]/[{i}]/protocol/[0]/{name}"
  return false

def listRuleOpen (rule : Value) (i : Nat) : Audit Bool := do
  if !(← (← rule.firstOf "source").has "0.0.0.0/0") then return false
  if (← rule.firstOf "protocol") != "1" then
    if !(← rule.has "udp_options") then
      if !(← rule.has "tcp_options") then return true
  if ← listOptionsOpen port rule "tcp_options" i then return true
  if ← listOptionsOpen port rule "udp_options" i then return true
  return (← rule.firstOf "protocol") == "all"

def listClosed (openByDefault : Bool) : Scan := fun conf => do
  let some rules := conf.get? "ingress_security_rules" | return .passIf !openByDefault
  inspect "ingress_security_rules"
  for (i,rule) in ← rules.enumerate do
    for (j,part) in ← rule.listed.enumerate do
      if ← listRuleOpen port part i then return ← failAt s!"ingress_security_rules/[{j}]/[{i}]"
  return .passed

def mustContain (id what kind : String) : Check :=
  expects id ("=OCI IAM password policy - must contain " ++ what) "identity_authentication_policy"
    s!"password_policy/[0]/is_{kind}_characters_required"

def checks : List Check := under "CKV_OCI_" "oci_" [
  needs "15" "OCI File System is Encrypted with a customer Managed Key" "file_storage_file_system" "kms_key_id",
  .of "18" "=OCI IAM password policy for local (non-federated) users has a minimum length of 14 characters"
    "identity_authentication_policy" passwordLength,
  mustContain "11" "lower case" "lowercase",
  mustContain "12" "Numeric characters" "numeric",
  mustContain "13" "Special characters" "special",
  mustContain "14" "Uppercase characters" "uppercase",
  expects "4" "OCI Compute Instance boot volume has in-transit data encryption enabled" "core_instance"
    "launch_options/[0]/is_pv_encryption_in_transit_enabled",
  expects "5" "OCI Compute Instance has Legacy MetaData service endpoint disabled" "core_instance"
    "instance_options/[0]/are_legacy_imds_endpoints_disabled",
  forbids "6" "OCI Compute Instance has monitoring enabled" "core_instance" "agent_config/[0]/is_monitoring_disabled"
    [true],
  expects "7" "OCI Object Storage bucket can emit object events" "objectstorage_bucket" "object_events_enabled",
  needs "9" "OCI Object Storage is encrypted with Customer Managed Key" "objectstorage_bucket" "kms_key_id",
  forbids "10" "OCI Object Storage is not Public" "objectstorage_bucket" "access_type"
    ["ObjectRead","ObjectReadWithoutList"],
  expects "8" "OCI Object Storage has versioning enabled" "objectstorage_bucket" "versioning" ["Enabled"],
  .of "22" "no security groups rules allow ingress from 0.0.0.0/0 to port 22"
    "core_network_security_group_security_rule" (groupRuleClosed 22),
  .of "21" "security group has stateless ingress security rules" "core_network_security_group_security_rule"
    groupRuleStateless,
  needs "16" "VCN has an inbound security list" "core_security_list" "ingress_security_rules/[0]/protocol",
  .of "17" "VCN inbound security lists are stateless" "core_security_list" listStateless,
  closedTo "19" "security list" 22 "core_security_list" (listClosed · true) ".",
  closedTo "20" "security list" 3389 "core_security_list" (listClosed · false) ".",
  needs "2" "OCI Block Storage Block Volume has backup enabled" "core_volume" "backup_policy_id",
  needs "3" "=OCI Block Storage Block Volumes are not encrypted with a Customer Managed Key (CMK)" "core_volume"
    "kms_key_id"]

end Oracle

namespace PaloAlto

variable (key : String)

def algorithmsStrong (weak : List String) : Scan := fun conf => do
  let some algorithms := conf.get? key | return .failed
  inspect key
  failIfAny (← algorithms.elems) fun algorithm => return (← algorithm.first).isOneOf weak

def everyRule (ok : Value → Result Bool) : Scan := fun conf => do
  let some rules := conf.get? "rule" | return .unknown
  inspect "rule"
  failIfAny (← rules.elems) fun rule => return !(← ok rule)

def under (rule : Value) (key : String) (missing : Bool) (ok : Value → Result Bool) : Result Bool := do
  if !(← rule.has key) then return missing
  ok (← rule.get key)

def isBlank (v : Value) : Result Bool := do return Text.strip (← v.asText) == ""

def describes : Scan := everyRule fun rule =>
  under rule key false fun v => do return !(← isBlank (← v.first))

def logsEnd : Scan := everyRule fun rule => under rule "log_end" true fun v => do return (← v.first).truthy

def inspectsResponses : Scan := everyRule fun rule =>
  under rule "disable_server_response_inspection" true fun v => do return (← v.first).falsy

def notAny : Scan := everyRule fun rule =>
  under rule key false fun v => do return (← (← v.first).first) != "any"

def hasAny (v : Value) : Result Bool := do return (← (← v.first).elems).any (· == "any")

def addressesLimited : Scan := everyRule fun rule =>
  under rule "source_addresses" false fun source => do
    if !(← hasAny source) then return true
    under rule "destination_addresses" false fun destination => do return !(← hasAny destination)

def zoneProtected : Scan := fun conf => do
  inspect "zone_profile"
  let some profile := conf.get? "zone_profile" | return .failed
  return .passIf !(← isBlank (← profile.first))

def zoneHasAccessList : Scan := fun conf => do
  inspect "include_acls"
  if (conf.getD "enable_user_id").falsy then return .passed
  let some lists := conf.get? "include_acls" | return .failed
  failIfAny (← (← lists.first).elems) isBlank

def cryptoProfiles := ["ipsec_crypto_profile","panorama_ipsec_crypto_profile"]

def policyTypes := ["security_policy","security_rule_group"]

def checks : List Check := Check.under "CKV_PAN_" "panos_" [
  forbids "2" "plain-text management HTTP is not enabled for an Interface Management Profile" "management_profile"
    "http" [true],
  forbids "3" "plain-text management Telnet is not enabled for an Interface Management Profile" "management_profile"
    "telnet" [true],
  .of "11" "IPsec profiles do not specify use of insecure encryption algorithms"
    cryptoProfiles (algorithmsStrong "encryptions" ["des","3des","aes-128-cbc","aes-192-cbc","aes-256-cbc","null"]),
  .of "12" "IPsec profiles do not specify use of insecure authentication algorithms"
    cryptoProfiles (algorithmsStrong "authentications" ["none","md5","sha1"]),
  forbids "13" "IPsec profiles do not specify use of insecure protocols"
    cryptoProfiles "protocol" ["ah"],
  .of "8" "description is populated within security policies" policyTypes (describes "description"),
  .of "9" "a Log Forwarding Profile is selected for each security policy rule" policyTypes (describes "log_setting"),
  .of "10" "logging at session end is enabled within security policies" policyTypes logsEnd,
  .of "5" "security rules do not have 'applications' set to 'any' " policyTypes (notAny "applications"),
  .of "4" "DSRI is not enabled within security policies" policyTypes inspectsResponses,
  .of "6" "security rules do not have 'services' set to 'any' " policyTypes (notAny "services"),
  .of "7" "security rules do not have 'source_addresses' and 'destination_addresses' both containing values of 'any' "
    policyTypes addressesLimited,
  .of "14" "a Zone Protection Profile is defined within Security Zones" ["zone","zone_entry","panorama_zone"]
    zoneProtected,
  .of "15" "an Include ACL is defined for a Zone when User-ID is enabled" ["zone","panorama_zone"] zoneHasAccessList]

end PaloAlto

namespace Yandex

def notForUsers (type : String) : Scan := fun conf => do
  if Text.endsWith type "_binding" then
    return ← failIfAny (← (← conf.firstOf "members").elems) (·.startsWith "userAccount")
  return .passIf !(← (← conf.firstOf "member").startsWith "userAccount")

def publicAddress (type : String) : String :=
  if type == "yandex_mdb_kafka_cluster" then "config/[0]/assign_public_ip"
  else if type == "yandex_mdb_greenplum_cluster" then "assign_public_ip"
  else "host/[0]/assign_public_ip"

variable (conf : Value)

def bucketNotPublic : Ruling := do
  if (conf.getD "acl").isOnlyOf ["public-read","public-read-write"] then return .failed
  if let some grant := conf.get? "grant" then
    if (← (← grant.first).field "uri").isOnly "http://acs.amazonaws.com/groups/global/AllUsers" then return .failed
  return .passed

/-- The first range of all addresses decides when one port is named. -/
def opensAll (rule : Value) : Result Bool := do
  for range in ← (← rule.firstOf "v4_cidr_blocks").elems do
    if range == "0.0.0.0/0" then
      if !rule.isDict then throw .noMember
      if let some port := rule.get? "port" then return (← port.first) == .int (-1)
      if !rule.hasKey "from_port" && !rule.hasKey "to_port" then return true
      if (← rule.firstOf "from_port") == .int 0 then
        if (← rule.firstOf "to_port") == .int 65535 then return true
  return false

def groupClosed : Ruling := do
  let some ingress := conf.get? "ingress" | return .passed
  return .passIf !(← opensAll (← ingress.first))

def ruleClosed : Ruling := do
  if (← conf.firstOf "direction") != "ingress" then return .passed
  return .passIf !(← opensAll conf)

def members (kind : String) : List String := [kind ++ "_iam_binding",kind ++ "_iam_member"]

def databases (more : List String) : List String :=
  (["postgresql","sqlserver"] ++ more ++ ["mysql","mongodb","kafka","greenplum","elasticsearch","clickhouse"]).map
    (s!"mdb_{·}_cluster")

def checks : List Check := under "CKV_YC_" "yandex_" [
  forbids "18" "compute instance group does not have public IP." "compute_instance_group"
    "instance_template/[0]/network_interface/[0]/nat" [true],
  needs "22" "compute instance group has security group assigned." "compute_instance_group"
    "instance_template/[0]/network_interface/[0]/security_group_ids",
  forbids "2" "compute instance does not have public IP." "compute_instance" "network_interface/[0]/nat" [true],
  needs "11" "security group is assigned to network interface." "compute_instance"
    "network_interface/[0]/security_group_ids",
  forbids "4" "compute instance does not have serial console enabled." "compute_instance"
    "metadata/[0]/serial-port-enable" [true],
  forbids "13" "cloud member does not have elevated access."
    (members "resourcemanager_cloud") "role" ["admin","editor"],
  forbids "23" "folder member does not have elevated access."
    (members "resourcemanager_folder") "role" ["admin","editor"],
  forbids "21" "organization member does not have elevated access."
    (members "organizationmanager_organization") "role"
    ["admin","editor","organization-manager.organizations.owner","organization-manager.admin"],
  .byType "24"
    "passport account is not used for assignment. Use service accounts and federated accounts where possible."
    (["resourcemanager_folder","resourcemanager_cloud","organizationmanager_organization"].flatMap members) notForUsers,
  forbids "7" "Kubernetes cluster auto-upgrade is enabled." "kubernetes_cluster"
    "master/[0]/maintenance_policy/[0]/auto_upgrade" [false],
  needs "10" "etcd database is encrypted with KMS key." "kubernetes_cluster" "kms_provider/[0]/key_id",
  needs "16" "network policy is assigned to Kubernetes cluster." "kubernetes_cluster" "network_policy_provider",
  forbids "8" "Kubernetes node group auto-upgrade is enabled." "kubernetes_node_group"
    "maintenance_policy/[0]/auto_upgrade" [false],
  forbids "6" "Kubernetes cluster node group does not have public IP addresses." "kubernetes_node_group"
    "instance_template/[0]/network_interface/[0]/nat" [true],
  needs "15" "security group is assigned to Kubernetes node group." "kubernetes_node_group"
    "instance_template/[0]/network_interface/[0]/security_group_ids",
  forbids "5" "Kubernetes cluster does not have public IP address." "kubernetes_cluster" "master/[0]/public_ip"
    [true],
  needs "14" "security group is assigned to Kubernetes cluster." "kubernetes_cluster" "master/[0]/security_group_ids",
  needs "9" "KMS symmetric key is rotated." "kms_symmetric_key" "rotation_period",
  forbidsByType "12" "public IP is not assigned to database cluster."
    (databases []) publicAddress [true],
  needs "1" "security group is assigned to database cluster."
    (databases "redis") "security_group_ids",
  needs "3" "storage bucket is encrypted." "storage_bucket"
    "server_side_encryption_configuration/[0]/rule/[0]/apply_server_side_encryption_by_default/[0]/kms_master_key_id",
  .of "17" "storage bucket does not have public access permissions." "storage_bucket" bucketNotPublic,
  .of "19" "security group does not contain allow-all rules." "vpc_security_group" groupClosed,
  .of "20" "security group rule is not allow-all." "vpc_security_group_rule" ruleClosed]

end Yandex

end InfraAudit.Terraform
