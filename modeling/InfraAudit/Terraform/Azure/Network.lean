import InfraAudit.Terraform.Check

namespace InfraAudit.Terraform.Azure

open Audit

def internet := ["*","0.0.0.0","<nw>/0","/0","internet","any"]

def portRange := Text.Pattern.of "\\d+-\\d+"

variable (port : Int) (rule : Value)

def rangeCovers (range : Value) : Result Bool := do
  let written := range.display
  if portRange.matches? written then
    match ← range.splitOn "-" with
    | a::b :: _ =>
      if (← Decimal.integer a) ≤ port && port ≤ (← Decimal.integer b) then return true
    | _ => throw .outOfRange
  return written == toString port || written == "*"

def firstIn (v : Value) (words : List String) : Result Bool := do
  if v.falsy then return false
  return words.contains (← (← v.first).lowered)

def rangeOpens (range : Value) : Result Bool := do
  if range.falsy then return false
  (← range.first).listed.items.anyM (rangeCovers port)

def rangesOpen (ranges : Value) : Result Bool := do
  if ranges.falsy then return false
  let ranges ← ranges.first
  if ranges.falsy then return false
  (← ranges.elems).anyM fun r => r.listed.items.anyM (rangeCovers port)

def coversPort : Result Bool := do
  if ← rangeOpens port (rule.getD "destination_port_range") then return true
  rangesOpen port (rule.getD "destination_port_ranges")

def fromInternet : Result Bool := do
  let source := rule.getD "source_address_prefix"
  if source.truthy then
    if let some s := (← source.first).text? then
      if internet.contains (Text.lower s) then return true
  let sources := rule.getD "source_address_prefixes"
  if sources.falsy then return false
  return (← sources.first).items.any fun s => (s.text?.map Text.lower).any internet.contains

def opensPort : Result Bool := do
  if !(← firstIn (rule.getD "access") ["allow"]) then return false
  if !(← firstIn (rule.getD "direction") ["inbound"]) then return false
  if !(← firstIn (rule.getD "protocol") ["tcp","*"]) then return false
  if !(← coversPort port rule) then return false
  fromInternet rule

def securityRules (conf : Value) : Value × String :=
  match conf.get? "security_rule" with
  | some rules => (rules,"security_rule/")
  | none => (.list [conf],"")

def ruleStart (start : String) (i : Nat) : String := if start.isEmpty then "" else s!"{start}[{i}]/"

def openRule? (rules : List Value) : Result (Option Value) :=
  rules.findM? fun rule => if rule.isDict then opensPort port rule else pure true

def judgeRules (start : String) (rules : List Value) : Audit Verdict := do
  let some rule ← openRule? port rules | return .passed
  if !rule.isDict then return .unknown
  let start := ruleStart start (rules.findIdx (· == rule))
  inspect (["access","direction","protocol","destination_port_range","destination_port_ranges",
    "source_address_prefix","source_address_prefixes"].map (start ++ ·))
  return .failed

def portClosed : Scan := fun conf => do
  if conf.hasKey "dynamic" then
    inspect "dynamic"
    return .unknown
  let (rules,start) := securityRules conf
  if !start.isEmpty then inspect "security_rule"
  judgeRules port start (← rules.elems)

def givenAs (key : String) (words : List String) : Result Bool := do
  let some v ← rule.firstOf? key | return false
  return words.contains (← v.lowered)

def opensDatagrams : Result Bool := do
  if !(← givenAs rule "protocol" ["udp"]) then return false
  if !(← givenAs rule "direction" ["inbound"]) then return false
  if !(← givenAs rule "access" ["allow"]) then return false
  givenAs rule "source_address_prefix" internet

def datagramsClosed : Scan := fun conf => do
  let (rules,start) := securityRules conf
  if !start.isEmpty then inspect "security_rule"
  for rule in ← rules.elems do
    if rule.isDict then
      if ← opensDatagrams rule then
        let start := ruleStart start (← rules.indexOf rule)
        return ← failAt (["protocol","direction","access","source_address_prefix"].map (start ++ ·))
  return .passed

variable (conf : Value)

def firewallOn : Ruling := do
  let some settings ← conf.firstOf? "policy_settings" | return .passed
  if settings.falsy then return .passed
  return .passIf ((← (← settings.reach? "enabled").mapM (·.first)).all (·.truthy))

def gatewayStopsRemoteCode : Ruling := do
  inspect "managed_rules"
  let managed := conf.getD "managed_rules"
  if managed.truthy then
    let sets ← (← managed.first).get "managed_rule_set"
    for (set,i) in sets.filledItems.zipIdx do
      let start := s!"managed_rules/[0]/managed_rule_set[{i}]/"
      inspect [start ++ "type",start ++ "version"]
      if (← set.getOr "type" (.list ["OWASP"])).isOnly "OWASP" && (set.getD "version").isOnlyOf ["3.1","3.2"] then
        let overrides := set.getD "rule_group_override"
        for (group,j) in overrides.filledItems.zipIdx do
          note (start ++ s!"rule_group_override/[{j}]/rule_group_name")
          note (start ++ s!"rule_group_override/[{j}]/disabled_rules")
          if (← group.get "rule_group_name").isOnly "REQUEST-944-APPLICATION-ATTACK-JAVA" then
            let disabled := group.getD "disabled_rules"
            let disabled := if disabled.truthy then disabled else .list []
            if disabled.isList then
              if (Value.str "944240").elem (← disabled.first).listed.items then return .failed
        return .passed
  return .failed

def frontDoorStopsRemoteCode : Scan := fun conf => do
  inspect "managed_rule"
  let managed := conf.getD "managed_rule"
  for (set,i) in managed.filledItems.zipIdx do
    inspect s!"managed_rule/[{i}]/type"
    if set.truthy then
      if (← set.get "type").isOnlyOf ["DefaultRuleSet","Microsoft_DefaultRuleSet"] then
        let overrides := set.getD "override"
        for (group,j) in overrides.filledItems.zipIdx do
          let start := s!"managed_rule/[{i}]/override/[{j}]/"
          note (start ++ "rule_group_name")
          if (← group.get "rule_group_name").isOnly "JAVA" then
            let rules := group.getD "rule"
            for (rule,k) in rules.filledItems.zipIdx do
              for key in ["rule_id","enabled","action"] do note (start ++ s!"rule/[{k}]/{key}")
              if (← rule.get "rule_id").isOnly "944240" then
                if rule.getD "enabled" != .list [true] then return .failed
                if !(rule.getD "action").isOnlyOf ["Block","Redirect"] then return .failed
        return .passed
  return .failed

def databaseRuleNarrow : Ruling := do
  inspect "start_ip_address"
  if conf.hasKey "end_ip_address" then note "end_ip_address"
  if (← conf.firstOf? "start_ip_address").any (·.isOneOf ["0.0.0.0","0.0.0.0/0"]) then
    return .passIf ((← conf.firstOf? "end_ip_address") != some "255.255.255.255")
  return .passed

def flowLogRetention : Ruling := do
  inspect "enabled"
  if (← conf.firstOf? "enabled").any (·.truthy) then
    if let some retention ← conf.firstOf? "retention_policy" then
      if (← retention.firstOf "enabled").truthy then
        let days := intOf? (← retention.firstOf "days")
        inspect ["retention_policy/[0]/enabled","retention_policy/[0]/days"]
        if days.any fun n => n == 0 || n ≥ 90 then return .passed
      else inspect "retention_policy/[0]/enabled"
  return .failed

def accountNetworksLimited : Ruling := do
  if (← conf.firstOf? "public_network_access_enabled").any (·.falsy) then return .passed
  inspect "public_network_access_enabled"
  if (← conf.firstOf? "is_virtual_network_filter_enabled").any (·.truthy) then
    note "is_virtual_network_filter_enabled"
    for key in ["virtual_network_rule","ip_range_filter"] do
      if (← conf.firstOf? key).any (·.truthy) then
        note key
        return .passed
  return .failed

end InfraAudit.Terraform.Azure
