import InfraAudit.Terraform.Check

namespace InfraAudit.Terraform.Aws

open Audit

variable (port : Int) (rule : Value)

def firstInt? (key : String) : Result (Option Int) := do
  let v ← (← rule.getOr key (.list [.null])).first
  return intOf? v

def rulePorts : Result (Option (Int × Int)) :=
  let ports : Result (Option (Int × Int)) := do
    let some a ← firstInt? rule "from_port" | return none
    return (← firstInt? rule "to_port").map (a,·)
  match ports with
  | .error .wrongKind | .error .badValue => .ok none
  | ports => ports

def listRuleOpensTo (ports : Option (Int × Int)) (rule : Value) (key range : String) : Result Bool := do
  if !(← rule.get key).isOnly range then return false
  if !((← rule.get "action").isOnly "allow" || (← rule.get "rule_action").isOnly "allow") then return false
  let protocol ← rule.get "protocol"
  if protocol.truthy then
    if (← protocol.first).display == "-1" then return true
  return ports.any fun (a,b) => a != 0 && b != 0 && a ≤ port && port ≤ b

def listRuleOpens : Result Bool := do
  let ports ← rulePorts rule
  if ← listRuleOpensTo port ports rule "cidr_block" "0.0.0.0/0" then return true
  listRuleOpensTo port ports rule "ipv6_cidr_block" "::/0"

def someListRuleOpens (rules : Value) : Result Bool := do
  (← rules.elems).anyM fun rule => rule.listed.items.anyM (listRuleOpens port)

def accessListClosed : Scan := fun conf => do
  let ingress := conf.getD "ingress"
  if ingress.truthy then return .passIf !(← someListRuleOpens port ingress)
  if (conf.getD "network_acl_id").truthy then
    let egress := conf.getD "egress"
    if egress.truthy then
      if (← egress.first).truthy then return .passed
    return .passIf !(← listRuleOpens port conf)
  return .unknown

def groupPort (key : String) : Result (Option Int) := do
  let some v := rule.get? key | return none
  return intOf? (← v.listed.first)

def opensNarrow : Result Bool := do
  let ranges := (rule.get? "cidr_blocks").getD (.list [.list []])
  if ranges.truthy then
    if (← ranges.size) > 0 then return ← (← ranges.first).listed.has "0.0.0.0/0"
  ranges.listed.has "0.0.0.0/0"

def opensWide : Result Bool := do
  let ranges := (rule.get? "ipv6_cidr_blocks").getD (.list [])
  if ranges.falsy then return false
  let ranges ← ranges.first
  if ranges.isNull then return false
  return (← ranges.elems).any (·.isOneOf ["::/0","0000:0000:0000:0000:0000:0000:0000:0000/0"])

def groupRuleOpens : Result Bool := do
  match ← groupPort rule "from_port", ← groupPort rule "to_port" with
  | some a,some b =>
    if !(a ≤ port && port ≤ if a == 0 && b == 0 then 65535 else b) then return false
    if ← opensNarrow rule then return true
    opensWide rule
  | _,_ => return false

def openGroupRule? (rules : List Value) : Result (Option Value) :=
  rules.findM? fun rule => rule.listed.items.anyM fun part =>
    if part.isDict then groupRuleOpens port part else pure false

def groupKeys := ["from_port","to_port","cidr_blocks","ipv6_cidr_blocks"]

def securityGroupClosed : Scan := fun conf => do
  if let some ingress := conf.get? "ingress" then
    let rules ← ingress.elems
    let some rule ← openGroupRule? port rules | return .passed
    let i := rules.findIdx (· == rule)
    return ← failAt (groupKeys.map fun k => s!"ingress/[{i}]/{k}")
  if let some kind := conf.get? "type" then
    if (← kind.listed.first) != "ingress" then return .unknown
    inspect groupKeys
    return .passIf !(← groupRuleOpens port conf)
  return .passed

def rulesDescribed (conf : Value) (direction : String) : Audit Bool := do
  if let some rules := conf.get? direction then
    for rule in ← rules.elems do
      if rule.isDict && (rule.getD "description").falsy then
        let i ← rules.indexOf rule
        note s!"{direction}/[{i}]"
        return false
  return true

variable (conf : Value)

def securityGroupDescribed : Ruling := do
  if conf.hasKey "description" then inspect "description"
  let group := (conf.getD "description").truthy
  if conf.hasKey "type" then return .passIf group
  let egress ← rulesDescribed conf "egress"
  let ingress ← rulesDescribed conf "ingress"
  return .passIf (group && egress && ingress)

def methodAuthorized : Ruling := do
  if conf.hasKey "http_method" then
    if (← conf.firstOf "http_method") != "OPTIONS" then
      if (← conf.firstOf "authorization") == "NONE" then
        let some required := conf.get? "api_key_required" | return .failed
        if (← required.first).isFalse then return .failed
  return .passed

def strictTransport : Ruling := do
  inspect "security_headers_config"
  if let .list (headers::_) := conf.getD "security_headers_config" then
    inspect "security_headers_config/[0]/strict_transport_security"
    if let .list (transport::_) := ← headers.get "strict_transport_security" then
      let key := "security_headers_config/[0]/strict_transport_security/[0]/"
      inspect [key ++ "access_control_max_age_sec"]
      let age ← transport.get "access_control_max_age_sec"
      if age.falsy then return .failed
      let some n := intOf? (← age.first) | return .failed
      if n == 0 || n < 31536000 then return .failed
      for flag in ["include_subdomains","preload","override"] do
        note (key ++ flag)
        let v ← transport.get flag
        if v.falsy then return .failed
        if (← v.first).falsy then return .failed
      return .passed
  return .failed

def distributionEncrypted : Ruling := do
  if let some behavior := conf.get? "default_cache_behavior" then
    inspect "default_cache_behavior/[0]/viewer_protocol_policy"
    let behavior ← behavior.first
    if behavior.isDict then
      if (← behavior.headOf? "viewer_protocol_policy") == some "allow-all" then return .failed
  if let some behaviors := conf.get? "ordered_cache_behavior" then
    for behavior in ← behaviors.elems do
      if behavior.isDict then
        if (← behavior.firstOf "viewer_protocol_policy") == "allow-all" then
          let i ← behaviors.indexOf behavior
          return ← failAt s!"ordered_cache_behavior/[{i}]/viewer_protocol_policy"
  return .passed

def firewallStopsRemoteCode : Scan := fun conf => do
  inspect "rule"
  let rules := conf.getD "rule"
  for (rule,i) in rules.filledItems.zipIdx do
    let key := s!"rule/[{i}]/"
    let group := key ++ "statement/[0]/managed_rule_group_statement"
    inspect [key ++ "statement"]
    let statement ← rule.get "statement"
    if statement.truthy then
      inspect [group]
      let managed ← (← statement.first).get "managed_rule_group_statement"
      if managed.truthy then
        inspect [group ++ "/[0]/name"]
        let managed ← managed.first
        if managed.truthy then
          if (← managed.get "name").isOnly "AWSManagedRulesKnownBadInputsRuleSet" then
            note (group ++ "/[0]/excluded_rule")
            let excluded ← managed.get "excluded_rule"
            for (ex,j) in excluded.filledItems.zipIdx do
              if ex.truthy then
                if (← ex.get "name").isOnly "Log4JRCE" then
                  return ← failAt [group ++ "/[0]/name",group ++ s!"/[0]/excluded_rule/[{j}]/name"]
            note (key ++ "override_action/[0]/none")
            let unchanged ← (← (← rule.get "override_action").first).get "none"
            if unchanged.falsy then return .failed
            return .passIf (← unchanged.first).isDict
  return .failed

def firewallHasRules : Scan := fun conf => do
  return .passIf (["rules","rule"].any fun k => (conf.get? k).any (· != .list [.dict []]))

def dropsInvalidHeaders : Ruling := do
  if (conf.getD "load_balancer_type").isOnlyOf ["gateway","network"] then return .unknown
  require "drop_invalid_header_fields" [true] .failed conf

def listenerProtocol : Ruling := do
  inspect "protocol"
  let protocol := conf.getD "protocol"
  if protocol.isOnlyOf ["HTTPS","TLS","TCP","UDP","TCP_UDP"] then return .passed
  if protocol.isOnly "HTTP" && conf.hasKey "default_action" then
    let action ← conf.firstOf "default_action"
    if (← action.field "type").isOnly "redirect" then
      if ← action.has "redirect" then
        let target ← (← action.firstOf "redirect").get "protocol"
        if target.isOnly "HTTPS" then return ← passAt "default_action/[0]/redirect/[0]/protocol"
        if target.isNull then return .unknown
  return .failed

def listenerTlsVersion : Ruling := do
  inspect "protocol"
  let some protocol := conf.get? "protocol" | return .failed
  if protocol.isOnlyOf ["HTTPS","TLS"] then
    if let some policy := conf.get? "ssl_policy" then
      note "ssl_policy"
      let name := Text.stripChars policy.display "['']"
      if ["ELBSecurityPolicy-FS-1-2","ELBSecurityPolicy-TLS-1-2"].any (Text.startsWith name ·) then return .passed
    return .failed
  if protocol.isOnlyOf ["TCP","UDP","TCP_UDP"] then return .passed
  for (i,action) in ← ((conf.get? "default_action").getD (.list [])).enumerate do
    let redirects ← action.getOr "redirect" (.list [])
    for (redirect,j) in redirects.listed.items.zipIdx do
      if redirect.isDict && (redirect.getD "protocol").isOnly "HTTPS" then
        let position := if redirects.isList then s!"[{j}]/" else ""
        note s!"default_action/[{i}]/redirect/{position}protocol"
        return .passed
  return .failed

def classicLoggingEnabled : Ruling := do
  let some logs ← conf.firstOf? "access_logs" | return .failed
  if !(← logs.has "enabled") then return .passed
  return .passIf ((← logs.field "enabled") == .list [true])

def policyWithoutOldProtocols : Ruling := do
  inspect "policy_attribute"
  for policy in ← (conf.getD "policy_attribute").elems do
    let name ← (← policy.get "name").first
    if name.isOneOf ["Protocol-SSLv3","Protocol-TLSv1","Protocol-TLSv1.1"] then
      if (← (← policy.get "value").first).truthy then return .failed
  return .passed

def listenersHaveCertificates : Ruling := do
  inspect "listener"
  if let some listeners := conf.get? "listener" then
    for (i,listener) in ← listeners.enumerate do
      if !(← listener.has "ssl_certificate_id") then return ← failAt s!"listener/{i}"
  return .passed

def loggingEnabled : Ruling := do
  if (conf.getD "load_balancer_type").isOnly "gateway" then return .unknown
  require "access_logs/0/enabled/0" [true] .failed conf

def crossZone : Ruling := do
  if ((conf.get? "load_balancer_type").getD (.list ["application"])).isOnly "application" then return .unknown
  require "enable_cross_zone_load_balancing" [true] .failed conf

def targetGroupHealthCheck : Ruling := do
  if !(conf.getD "protocol").isOnlyOf ["HTTP","HTTPS"] then return .unknown
  if let .list (check::_) := conf.getD "health_check" then
    if check.isDict && (check.getD "path").truthy then return .passed
  failAt "health_check"

end InfraAudit.Terraform.Aws
