import InfraAudit.CloudFormation.Check
import InfraAudit.Secrets

namespace InfraAudit.CloudFormation

open Audit

def saysTrue (v : Value) : Bool := v.isTrue || v == "true"

def functionNames :=
  ["Fn::And","Fn::Equals","Fn::If","Fn::Not","Fn::Or","Fn::Base64","Fn::Cidr","Fn::FindInMap",
    "Fn::GetAtt","Fn::GetAZs","Fn::ImportValue","Fn::Join","Fn::Select","Fn::Split","Fn::Sub",
    "Fn::Transform","Ref","Condition"]

def settingIsOn (name : String) (item : Value) : Result Bool := do
  if (← item.part "Key") != .str name then return false
  return saysTrue (← item.part "Value")

def rowsOf (v : Value) (key : String) : Result (List Value) := do
  let rows ← v.part key
  if rows.truthy then rows.elems else return []

variable (conf : Value)

def dropsHeaders : Scan := onProps fun ps => do
  let type ← ps.part "Type"
  if type.truthy && type != "application" then return .unknown
  let settings ← ps.part "LoadBalancerAttributes"
  return .passIf (← anyItem (settingIsOn "routing.http.drop_invalid_header_fields.enabled") settings.items)

def writesAccessLogs : Scan := onProps fun ps => do
  if !(← ps.partHas "LoadBalancerAttributes") then return .failed
  let logs (item : Value) : Result Bool := do
    if !((← item.partHas "Key") && (← item.partHas "Value")) then return false
    settingIsOn "access_logs.s3.enabled" item
  return .passIf (← anyItem logs (ps.getD "LoadBalancerAttributes").items)

def listenerEncrypted : Scan := onProps fun ps => do
  if !(← ps.partHas "Protocol") then return .failed
  if (ps.getD "Protocol").isOneOf ["HTTPS","TLS","TCP","UDP","TCP_UDP"] then return .passed
  if !ps.hasKey "DefaultActions" then return .failed
  let actions := ps.getD "DefaultActions"
  if actions.fields.any fun (k,_) => functionNames.contains k then return .unknown
  let action ← actions.first
  if (← action.part "Type") != "redirect" then return .failed
  return .passIf ((← (← action.partOr "RedirectConfig" (.dict [])).part "Protocol") == "HTTPS")

def recentPolicies : String → List String
  | "HTTPS" => ["ELBSecurityPolicy-FS-1-2","ELBSecurityPolicy-TLS-1-2"]
  | _ => ["ELBSecurityPolicy-TLS13-1-3-2021-06","ELBSecurityPolicy-TLS13-1-2","ELBSecurityPolicy-FS-1-2",
      "ELBSecurityPolicy-TLS-1-2"]

def redirectVerdict (action : Value) : Result (Option Verdict) := do
  if action.isOneOf functionNames then return some .unknown
  let redirects := (← action.partOr "RedirectConfig" (.list [])).listed
  if ← anyItem (fun r => do return (← r.part "Protocol") == "HTTPS") redirects.items then return some .passed
  return none

def listenerRecent : Scan := onProps fun ps => do
  let some protocol ← ps.part? "Protocol" | return .failed
  if protocol.isOneOf ["HTTPS","TLS"] then
    if !ps.hasKey "SslPolicy" then return .failed
    let policy ← (ps.getD "SslPolicy").partText
    return .passIf ((recentPolicies protocol.display).any (Text.startsWith policy))
  if protocol.isOneOf ["TCP","UDP","TCP_UDP"] then return .passed
  return (← firstVerdict redirectVerdict (← (← ps.field "DefaultActions").elems)).getD .failed

def methodGuarded : Scan := onProps fun ps => do
  if !((← ps.partHas "HttpMethod") && (← ps.partHas "AuthorizationType")) then return .passed
  if ps.getD "HttpMethod" == "OPTIONS" || ps.getD "AuthorizationType" != "NONE" then return .passed
  return .passIf !(!ps.hasKey "ApiKeyRequired" || (ps.getD "ApiKeyRequired").isFalse)

def allowsAll (behaviour : Value) : Result Bool := do
  return (← behaviour.partHas "ViewerProtocolPolicy") && behaviour.getD "ViewerProtocolPolicy" == "allow-all"

def distributionEncrypted : Scan := onProps fun ps => do
  let some config ← ps.part? "DistributionConfig" | return .passed
  if ← config.partHas "DefaultCacheBehavior" then
    if ← allowsAll (config.getD "DefaultCacheBehavior") then return .failed
  match config.get? "CacheBehaviors" with
  | none => return .passed
  | some (.list xs) => return .passIf !(← anyItem allowsAll xs)
  | some _ => return .unknown

def attackExcluded (rule : Value) : Bool := rule.isDict && rule.getD "Name" == "Log4JRCE"

def ruleBlocksAttack (place : String) (rule : Value) : Audit (Option Verdict) := do
  let group := place ++ "/Statement/ManagedRuleGroupStatement"
  inspect [place ++ "/Statement"]
  let statement ← rule.part "Statement"
  if statement.falsy then return none
  inspect [group]
  let managed ← statement.part "ManagedRuleGroupStatement"
  if managed.falsy then return none
  inspect [group ++ "/Name"]
  if (← managed.part "Name") != "AWSManagedRulesKnownBadInputsRuleSet" then return none
  note (group ++ "/ExcludedRules")
  match (← rowsOf managed "ExcludedRules").findIdx? attackExcluded with
  | some i =>
    inspect [group ++ "/Name",group ++ "/ExcludedRules/" ++ positionText i ++ "/Name"]
    return some .failed
  | none =>
    note (place ++ "/OverrideAction/None")
    let override ← rule.part "OverrideAction"
    if override.falsy then return some .passed
    return some (.passIf (((← override.partFields).head?.map Prod.fst) == some "None"))

def blocksKnownAttack : Ruling := do
  inspect "Properties/Rules"
  let ps ← properties conf
  if ps.falsy then return .failed
  let judge (row : Value × Nat) := ruleBlocksAttack ("Properties/Rules/" ++ positionText row.2) row.1
  return (← (← rowsOf ps "Rules").zipIdx.findSomeM? judge).getD .failed

def keepSecrets (id : String) (secrets : List String) : Audit Bool := do
  for (s,i) in secrets.zipIdx do keep (id ++ "_secret_" ++ toString i) (.str s)
  return !secrets.isEmpty

def userDataClean (id : String) : Scan := onProps fun ps => do
  if !(← ps.partHas "UserData") then return .passed
  return .passIf !(← keepSecrets id (Secrets.of (ps.getD "UserData").display []))

def firstSecretVariable (id : String) : Fields → Audit Bool
  | [] => return false
  | (name,v)::r => do
    let secrets := Secrets.of v.display [.aws,.general]
    if secrets.isEmpty then firstSecretVariable id r
    else
      inspect ["Properties/Environment/Variables/" ++ name]
      keepSecrets id secrets

def variablesClean (id : String) : Scan := fun conf => do
  inspect "Properties/Environment/Variables"
  let named := ((conf.getD "Properties").getD "Environment").getD "Variables"
  return .passIf !(← firstSecretVariable id named.fields)

def variablesEncrypted : Scan := onProps fun ps => do
  let environment ← ps.part "Environment"
  if environment.isNull then return .passed
  if !environment.isDict then return .unknown
  return .passIf !((environment.getD "Variables").truthy && (ps.getD "KmsKeyArn").falsy)

def interfacesPrivate (interfaces : Value) : Result (Option Verdict) :=
  firstVerdict (fun i => do
    if !(← i.partHas "AssociatePublicIpAddress") then return some .unknown
    return if (i.getD "AssociatePublicIpAddress").isTrue then some .failed else none) interfaces.items

def noPublicAddress : Scan := onProps fun ps => do
  if ← ps.partHas "NetworkInterfaces" then
    if let some v ← interfacesPrivate (ps.getD "NetworkInterfaces") then return v
  if let some data ← ps.part? "LaunchTemplateData" then
    if ← data.partHas "NetworkInterfaces" then
      if let some v ← interfacesPrivate (data.getD "NetworkInterfaces") then return v
  return .passed

def metadataGuarded : Scan := onProps fun ps => do
  let some data ← ps.part? "LaunchTemplateData" | throw .unassigned
  let some options ← data.part? "MetadataOptions" | return .failed
  if (← options.partHas "HttpEndpoint") && options.getD "HttpEndpoint" == "disabled" then return .passed
  return .passIf (options.getD "HttpTokens" == "required")

def disksEncrypted : Ruling := do
  let disks ← (← properties conf).part "BlockDeviceMappings"
  if disks.falsy then return .passed
  let judge (disk : Value) : Result (Option Verdict) := do
    if !disk.isDict then return some .unknown
    let ebs := disk.getD "Ebs"
    if ebs.falsy then return none
    return if (← ebs.part "Encrypted").truthy then none else some .failed
  return (← firstVerdict judge (← disks.elems)).getD .passed

def containerInsights : Scan := onProps fun ps => do
  if ps.falsy then return .failed
  let settings ← ps.part "ClusterSettings"
  if settings.falsy then return .failed
  let enabled (s : Value) : Result Bool := do
    if (← s.field "Name") != "containerInsights" then return false
    return (← s.field "Value") == "enabled"
  return .passIf (← anyItem enabled (← settings.elems))

def volumesEncrypted : Scan := onProps fun ps => do
  if !(← ps.partHas "Volumes") then return .passed
  let judge (volume : Value) : Result (Option Verdict) := do
    let some config ← volume.part? "EFSVolumeConfiguration" | return none
    if !(← config.partHas "TransitEncryption") then return some .failed
    return some (.passIf (config.getD "TransitEncryption" == "ENABLED"))
  return (← firstVerdict judge (ps.getD "Volumes").items).getD .passed

def nodesGuarded : Scan := onProps fun ps => do
  let some access ← ps.part? "RemoteAccess" | return .passed
  if !(← access.partHas "Ec2SshKey") then return .passed
  return .passIf (access.hasKey "SourceSecurityGroups")

def clusterSecretsEncrypted : Ruling := do
  let config ← (← (← properties conf).partOr "EncryptionConfig" (.list [])).elems
  let resources ← config.filterMapM fun p => do
    p.reach? "Resources"
  return .passIf (← anyItem (·.has "secrets") resources)

def artifactsEncrypted : Scan := onProps fun ps => do
  let some artifacts ← ps.part? "Artifacts" | return .passed
  let isBucket := (← artifacts.partHas "Type") && artifacts.getD "Type" == "S3"
  return .passIf !(isBucket && (artifacts.getD "EncryptionDisabled").isTrue)

def exportsLogs (kinds : List String) : Scan := onProps fun ps => do
  return .passIf (← (← ps.partOr "EnableCloudwatchLogsExports" (.list [])).holdsAll kinds)

def tableEncrypted : Ruling := do
  let sse ← (← properties conf).part "SSESpecification"
  if sse.isNull then return .failed
  let enabled ← sse.part "SSEEnabled"
  return .passIf (enabled.truthy && !(sse.getD "KMSMasterKeyId").isNull)

def cacheTokenNeeded : Scan := onProps fun ps => do
  if !((← ps.partHas "TransitEncryptionEnabled") && (← ps.partHas "AuthToken")) then return .failed
  return .passIf (ps.getD "TransitEncryptionEnabled").truthy

def settingUnder (v : Value) (key setting : String) : Result (Option Value) := do
  let some inner ← v.part? key | return none
  inner.part? setting

def catalogEncrypted : Scan := onProps fun ps => do
  let some settings ← ps.part? "DataCatalogEncryptionSettings" | return .failed
  let passwords ← settingUnder settings "ConnectionPasswordEncryption" "ReturnConnectionPasswordEncrypted"
  let mode ← settingUnder settings "EncryptionAtRest" "CatalogEncryptionMode"
  return .passIf (passwords.any (·.isTrue) && mode == some "SSE-KMS")

def modeIsOn (mode : Option Value) : Bool := mode.any (· != .str "DISABLED")

def jobsEncrypted : Scan := onProps fun ps => do
  let some config ← ps.part? "EncryptionConfiguration" | return .failed
  let logs ← settingUnder config "CloudWatchEncryption" "CloudWatchEncryptionMode"
  let bookmarks ← settingUnder config "JobBookmarksEncryption" "JobBookmarksEncryptionMode"
  let stored ← if ← config.partHas "S3Encryptions" then
      anyItem (fun e => do return modeIsOn (← e.part? "S3EncryptionMode")) (config.getD "S3Encryptions").listed.items
    else pure false
  return .passIf (stored && modeIsOn logs && modeIsOn bookmarks)

def clusterEncrypted : Ruling := do
  let ps ← properties conf
  if (← ps.partHas "SnapshotIdentifier") || (← ps.partHas "SourceDBClusterIdentifier") then return .unknown
  require "Properties/StorageEncrypted" [true] .failed conf

def databaseEncrypted : Ruling := do
  let ps ← properties conf
  if ← ps.partHas "Engine" then
    if ← (ps.getD "Engine").has "aurora" then return .unknown
  require "Properties/StorageEncrypted" [true] .failed conf

def databaseLogin : Ruling := do
  let engine ← (← properties conf).part "Engine"
  if !engine.isOneOf ["mysql","postgres"] then return .unknown
  require "Properties/EnableIAMDatabaseAuthentication" [true] .failed conf

def ledgerProtected : Ruling := do
  if !(← (← properties conf).has "DeletionProtection") then return .passed
  require "Properties/DeletionProtection" [true] .failed conf

def warehouseNeedsEncryption : Ruling := do
  let params ← (← properties conf).partOr "Parameters" (.dict [])
  let needs (p : Value) : Result Bool := do
    if (← p.part "ParameterName") != "require_ssl" then return false
    return saysTrue (p.getD "ParameterValue")
  return .passIf (← anyItem needs (← params.elems))

def secretEncrypted : Scan := onProps fun ps => do
  if ps.falsy then return .failed
  let key ← ps.part "KmsKeyId"
  if key.falsy then return .failed
  return .passIf !(← key.has "aws/")

def undescribed (rule : Value) : Bool := rule.isDict && (rule.getD "Description").falsy

def rulesDescribed : Ruling := do
  let ps ← properties conf
  match conf.getD "Type" with
  | "AWS::EC2::SecurityGroup" =>
    if (← rowsOf ps "SecurityGroupIngress").any undescribed then return .failed
    return .passIf !((← rowsOf ps "SecurityGroupEgress").any undescribed)
  | _ =>
    if !(← ps.has "Description") then return .failed
    return .passIf (← ps.field "Description").truthy

def offers (v : Value) (key : String) : Result Bool :=
  if v.isDict || v.isList || v.isText then v.has key else .error .noMember

def opensPort (port : Int) (rule : Value) : Result Bool := do
  if !((← offers rule "FromPort") && (← offers rule "ToPort")) then return false
  if (← rule.field "FromPort").int? != some port || (← rule.field "ToPort").int? != some port then return false
  return rule.getD "CidrIp" == "0.0.0.0/0" ||
    (rule.getD "CidrIpv6").isOneOf ["::/0","0000:0000:0000:0000:0000:0000:0000:0000/0"]

def portClosed (port : Int) : Scan := fun conf => do
  let ps ← properties conf
  let rules ← match conf.getD "Type" with
    | "AWS::EC2::SecurityGroup" => do
      pure ((← ps.part? "SecurityGroupIngress").getD (.list []))
    | _ => pure (.list [ps])
  match rules with
  | .list xs => return .passIf !(← anyItem (opensPort port) xs)
  | _ => return .unknown

end InfraAudit.CloudFormation
