import InfraAudit.Check
import InfraAudit.Text.Pattern.Reader

namespace InfraAudit.Arm

open Text Text.Pattern

inductive Form where
  | template
  | declaration
  deriving DecidableEq, Repr

def Form.fault : Form → Fault → Fault
  | .declaration,.noTemplateMember => .noMember
  | _,e => e

def scanResource (rule : Form → Scan) : Scan := fun conf => do
  match conf.get? "existing" with
  | none => rule .template conf
  | some existing =>
    if existing.isTrue then return .unknown
    let _ ← conf.field "api_version"
    let inner ← conf.field "config"
    fun s => ((rule .declaration inner).run s).mapError Form.declaration.fault

variable (v : Value) (id name : String) (entities : List String)

def onResource (rule : Scan) : Check := .of id name entities (scanResource fun _ => rule)

def byForm (rule : Form → Scan) : Check := .of id name entities (scanResource rule)

def onType (rule : String → Scan) : Check := .byType id name entities fun type => scanResource fun _ => rule type

/-- Null as soon as a key cannot be followed. A key in brackets is a position. -/
def lookUp (v : Value) : List String → Value
  | [] => v
  | k::ks =>
    if startsWith k "[" && endsWith k "]" then
      match v, Decimal.int? (slice k (some 1) (some (-1))) with
      | .list xs,some i => ((Value.nth xs i).toOption.map (lookUp · ks)).getD .null
      | _,_ => .null
    else lookUp (v.getD k) ks

def find (path : String) : Value := lookUp v (split path "/")

def dependencePattern := of "(?:local|var|module)\\.[^\\s]+"

def isReference : Bool := v.text?.any (dependencePattern.matches? ·)

/-- A missing or empty property gives the same verdict as a wrong one. -/
def require (path : String) (expected : List Value) (otherwise : Verdict := .failed) : Scan := fun conf =>
  let v := find conf path
  if v.falsy then return otherwise
  else if anything.elem expected then return .passed
  else
    let v := v.unwrapped
    return if v.elem expected || isReference v then .passed else otherwise

def expects (path : String) (expected : List Value := [true]) (otherwise : Verdict := .failed) : Check :=
  onResource id name entities (require path expected otherwise)

def dig? (v : Value) : List String → Option Value
  | [] => some v
  | k::ks => if v.isDict then dig? (v.getD k) ks else none

def lowText : String := lower v.display

def reads (conf : Value) (keys : List String) (expected : String) : Result Bool := do
  return (← conf.reach? keys).any (lowText · == expected)

def propertyReads (key expected : String) : Scan := fun conf => do
  return .passIf (← reads conf ["properties",key] expected)

def propertyFilled (keys : List String) : Scan := fun conf => do
  return .passIf (((← conf.reach? ("properties" :: keys)).getD .null).truthy)

def isWord (word : String) : Result Bool := do return lower (← v.partText) == word

def number? : Option Int := (forceInt v).int?

/-- The year of a version; the inner nothing stands for one without a year. -/
def versionYear? (conf : Value) : Result (Option (Option Int)) := do
  if !(← conf.has "apiVersion") then return none
  return some (number? (← (← conf.field "apiVersion").sliced (some 0) (some 4)))

def clusterProperties? (form : Form) (conf : Value) : Option Value :=
  let p := conf.getD "properties"
  if form == .template && p.isDict then some p else none

def isFirstVersion (conf : Value) : Bool := conf.getD "apiVersion" == "2017-08-31"

def filled? (key : String) : Result (Option Value) := do
  let x ← v.part key
  return (some x).filter (·.truthy)

def addressesLimited (form : Form) : Scan := fun conf => do
  let some version := conf.get? "apiVersion" | return .failed
  if version.isOneOf ["2017-08-31","2018-03-31"] then return .failed
  if version.isOneOf ["2019-02-01","2019-04-01","2019-06-01"] then
    return ← propertyFilled ["apiServerAuthorizedIPRanges"] conf
  let some properties := clusterProperties? form conf | return .failed
  let some profile ← filled? properties "apiServerAccessProfile" | return .failed
  return .passIf (← profile.part "authorizedIPRanges").truthy

def onCluster (holds : Value → Result Bool) (form : Form) : Scan := fun conf => do
  if isFirstVersion conf then return .failed
  let some properties := clusterProperties? form conf | return .failed
  return .passIf (← holds properties)

def dashboardOff : Form → Scan := onCluster fun properties =>
  return (dig? properties ["addonProfiles","kubeDashboard","enabled"]).any (lowText · == "false")

variable (conf : Value)

def monitored : Ruling := do
  if isFirstVersion conf then return .failed
  return .passIf (((dig? conf ["properties","addonProfiles","omsagent","enabled"]).getD .null).truthy)

def networkPolicyGiven : Form → Scan := onCluster fun properties => do
  let some profile ← filled? properties "networkProfile" | return false
  return (← profile.part "networkPolicy").truthy

def rolesUsed : Form → Scan := onCluster fun properties => return lowText (properties.getD "enableRBAC") == "true"

def loginNeeded (type : String) : Scan := fun conf => do
  if type == "Microsoft.Web/sites/config" then
    if !(← conf.has "name") then return .failed
    if !(← (← conf.field "name").has "authsettings") then return .failed
    return .passIf (← reads conf ["properties","enabled"] "true")
  if type == "config" && conf.getD "name" == "authsettings" then
    let some parent := conf.get? "parent_type" | return .unknown
    if parent != "Microsoft.Web/sites" then return .failed
    return .passIf (← reads conf ["properties","enabled"] "true")
  return .unknown

def siteConfig (conf : Value) (key : String) : Value := (dig? conf ["properties","siteConfig",key]).getD .null

def latestProtocol : Ruling := return .passIf (siteConfig conf "http20Enabled").truthy

def recentEncryption : Ruling := return .passIf (siteConfig conf "minTlsVersion" == "1.2")

def identityGiven : Ruling := do
  let some identity ← conf.reach? "identity" | return .failed
  let some type ← identity.reach? "type" | return .failed
  if type == "SystemAssigned" then return .passed
  if type == "UserAssigned" then return .passIf (((← identity.reach? "userAssignedIdentities").getD .null).truthy)
  return .failed

def isPublishedBy (conf : Value) (keys words : List String) : Result Bool := do
  let publisher := (dig? conf (keys ++ ["storageProfile","imageReference","publisher"])).getD .null
  if publisher.falsy then return false
  let name := lower (← publisher.partText)
  return words.any (contains name ·)

def noPasswords (keys words : List String) : Scan := fun conf => do
  if ← isPublishedBy conf keys words then return .unknown
  require (join "/" (keys ++ ["osProfile","linuxConfiguration","disablePasswordAuthentication"]))
    [true] .failed conf

def diskEncrypted : Ruling := do
  let some properties ← conf.reach? "properties" | return .failed
  for key in ["encryptionSettingsCollection","encryptionSettings"] do
    if ← properties.has key then return .passIf (← reads properties [key,"enabled"] "true")
  return .failed

def subscriptionPattern : Text.Pattern :=
  of "\\/|\\/subscriptions\\/[\\w\\d-]+$|\\[subscription\\(\\).id\\]"

def isSubscription : Value → Bool
  | .str s | .element s => subscriptionPattern.matches? s
  | _ => false

def noOwnerRole : Ruling := do
  let some properties ← conf.reach? "properties" | return .passed
  let some scopes ← properties.reach? "assignableScopes" | return .passed
  if !((← scopes.elems).any isSubscription) then return .passed
  let some permissions ← properties.reach? "permissions" | return .passed
  if permissions.falsy then return .passed
  for p in ← permissions.elems do
    if let some actions ← p.reach? "actions" then
      if ← actions.has "*" then return .failed
  return .passed

def allCategories : Ruling := do
  let some categories ← conf.reach? ["properties","categories"] | return .failed
  return .passIf (← categories.holdsAll ["Write","Delete","Action"])

def retentionDays? (policy : Value) : Result (Option Int) := do
  if !(← reads policy ["enabled"] "true") then return none
  return (← policy.reach? "days").bind number?

def profileRetained : Ruling := do
  let some policy ← conf.reach? ["properties","retentionPolicy"] | return .failed
  return .passIf ((← retentionDays? policy).any fun days => days == 0 || days ≥ 365)

def flowsRetained : Ruling := do
  let some properties ← conf.reach? "properties" | return .failed
  if !(← reads properties ["enabled"] "true") then return .failed
  let some policy ← properties.reach? "retentionPolicy" | return .failed
  return .passIf ((← retentionDays? policy).any (· ≥ 90))

def queueLogged : Ruling := do
  let logs := (← conf.reach? ["properties","logs"]).getD .null
  if logs.falsy then return .failed
  let mut kept : List Value := []
  for log in ← logs.elems do
    if ← log.has "category" then
      if ← reads log ["enabled"] "true" then
        let category ← log.field "category"
        if !category.hashable then throw .wrongKind
        kept := category :: kept
  return .passIf (["StorageRead","StorageWrite","StorageDelete"].all fun s => (Value.str s).elem kept)

def portRange := of "\\d+-\\d+"

def anyAddress := ["*","0.0.0.0","<nw>/0","/0","internet","any"]

def inRange (port : Int) (range : Value) : Result Bool := do
  if portRange.matches? range.display then
    let parts := split (← range.partText) "-"
    let bound (i : Nat) := Decimal.integer (parts.getD i "")
    if (← bound 0) ≤ port && port ≤ (← bound 1) then return true
  return range.isOneOf [toString port,"*"]

def wordAt (keys : List String) (word : String) : Result Bool := do
  ((← v.reach? keys).map (isWord · word)).getD (return false)

def listAt (key : String) : Result (List Value) := do ((← v.reach? key).map (·.elems)).getD (return [])

def pluralAndSingular (plural singular : String) : Result (List Value) := do
  return (← listAt v plural) ++ (← v.reach? singular).toList

def opensPort (port : Int) (rule : Value) : Result Bool := do
  let some properties ← rule.reach? "properties" | return false
  if !(← wordAt properties "access" "allow") then return false
  if !(← wordAt properties "direction" "inbound") then return false
  if !(← wordAt properties "protocol" "tcp") then return false
  let ranges ← pluralAndSingular properties "destinationPortRanges" "destinationPortRange"
  let sources ← pluralAndSingular properties "sourceAddressPrefixes" "sourceAddressPrefix"
  for range in ranges do
    if ← inRange port range then
      if sources.any (·.isOneOf anyAddress) then return true
  return false

def portClosed (port : Int) (type : String) : Scan := fun conf => do
  let some properties ← conf.reach? "properties" | return .passed
  let rules ← if type == "Microsoft.Network/networkSecurityGroups" then listAt properties "securityRules" else pure [conf]
  Audit.failIfAny rules (opensPort port)

def serverSetting (name : String) : Scan := fun conf => do
  let some type := conf.get? "type" | return .failed
  let isOn := wordAt conf ["properties","value"] "on"
  let named := conf.getD "name" == .str name
  if type == "Microsoft.DBforPostgreSQL/servers/configurations" then
    if named then return .passIf (← isOn) else return .silent
  if type == "configurations" then
    if !named then return .silent
    if conf.getD "parent_type" != "Microsoft.DBforPostgreSQL/servers" then return .failed
    return .passIf (← isOn)
  return .silent

def audited : Ruling := do
  let .list resources ← conf.part "resources" | return .failed
  for r in resources do
    if (← r.part "type").isOneOf ["auditingSettings","Microsoft.Sql/servers/auditingSettings",
        "Microsoft.Sql/servers/databases/auditingSettings"] then
      if let some properties ← filled? r "properties" then
        if let some state ← filled? properties "state" then
          if ← isWord state "enabled" then return .passed
  return .failed

/-- Looks for a nested resource that is enabled and satisfies a condition, and notes the last one
looked at. -/
def nestedEnabled (types : List String) (key : String) (holds : Value → Result Bool) : Scan := fun conf => do
  Audit.inspect "resources"
  let resources ← conf.part "resources"
  let listed := if resources.truthy then resources.listed else .list []
  for (i,r) in ← listed.enumerate do
    Audit.inspect [s!"resources/[{i}]/type",s!"resources/[{i}]/properties/state",s!"resources/[{i}]/properties/{key}"]
    if (← r.part "type").isOneOf types then
      let properties ← r.part "properties"
      if properties.isDict then
        if let some state := (properties.getD "state").text? then
          if lower state == "enabled" then
            if ← holds (properties.getD key) then return .passed
  return .failed

def alertTypes := ["Microsoft.Sql/servers/databases/securityAlertPolicies","securityAlertPolicies"]

def auditKept : Scan :=
  nestedEnabled ["Microsoft.Sql servers/databases/auditingSettings","auditingSettings"] "retentionDays" fun v =>
    return match v with
      | .int days => days ≥ 90
      | _ => false

def alertsSent : Scan := nestedEnabled alertTypes "emailAddresses" fun v => .ok v.truthy

def alertsToAdmins : Scan := nestedEnabled alertTypes "emailAccountAdmins" fun v => do
  if v.falsy then return false
  isWord v "enabled"

def allAlerts : Ruling := do
  let .list resources ← conf.part "resources" | return .failed
  for r in resources do
    if let some type ← r.reach? "type" then
      if type.isOneOf alertTypes then
        let properties ← r.part "properties"
        if properties.isDict then
          if let some state := properties.get? "state" then
            if ← isWord state "enabled" then
              if (properties.getD "disabledAlerts").falsy then return .passed
  return .failed

def notOpenToAll : Ruling := do
  let resources := (← conf.reach? "resources").getD .null
  if resources.falsy then return .passed
  for r in ← resources.elems do
    if let some type ← r.reach? "type" then
      if type.isOneOf ["Microsoft.Sql/servers/firewallRules","firewallRules","firewallrules"] then
        if let some properties ← r.reach? "properties" then
          if let some first ← properties.reach? "startIpAddress" then
            if first.isOneOf ["0.0.0.0","0.0.0.0/0"] then
              if (← properties.reach? "endIpAddress") == some "255.255.255.255" then return .failed
  return .passed

def recoverable : Ruling := do
  let some properties ← conf.reach? "properties" | return .failed
  if !(← properties.holdsAll ["enablePurgeProtection","enableSoftDelete"]) then return .failed
  if !(← reads properties ["enablePurgeProtection"] "true") then return .failed
  return .passIf (← reads properties ["enableSoftDelete"] "true")

def storageRules (judge : Value → Result Verdict) : Scan := fun conf => do
  match ← versionYear? conf with
  | some none => return .unknown
  | some (some year) => if year < 2017 then return .failed
  | none => pure ()
  ((← conf.reach? ["properties","networkAcls"]).map (judge ·)).getD (.ok .failed)

def servicesLetIn : Scan := storageRules fun rules => do
  let some action ← rules.reach? "defaultAction" | return .failed
  if action == "Allow" then return .passed
  return .passIf ((← rules.reach? "bypass") == some "AzureServices")

def othersKeptOut : Scan := storageRules fun rules => do
  let some action ← rules.reach? "defaultAction" | return .failed
  return .passIf (action == "Deny")

def encryptedTransfer : Ruling := do
  if let some only ← conf.reach? ["properties","supportsHttpsTrafficOnly"] then return .passIf (lowText only == "true")
  match ← versionYear? conf with
  | some none => return .unknown
  | some (some year) => return .passIf (year ≥ 2019)
  | none => return .failed

def containerPrivate : Scan := fun conf => do
  return .passIf ((← conf.reach? ["properties","publicAccess"]).all fun v => ! ["container","blob"].contains (lowText v))

def noDefaultSecret (id : String) : Scan := fun conf => do
  Audit.secretless (← conf.part "defaultValue") id

end InfraAudit.Arm
