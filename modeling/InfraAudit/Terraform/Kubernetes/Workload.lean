import InfraAudit.Terraform.Check
import InfraAudit.Kubernetes.Checks

namespace InfraAudit.Terraform.Kubernetes

open Audit

def specOf (conf : Value) : Result Value := ((conf.get? "spec").getD (.list [.null])).first

/-- Until one of them decides. A container that is not a block leaves no verdict. -/
def eachContainer (otherwise : Verdict) (spec : Value) (judge : Nat → Value → Audit (Option Verdict)) : Ruling := do
  for (i,container) in ← (← spec.get "container").enumerate do
    if !container.isDict then return .unknown
    if let some v ← judge i container then return v
  return otherwise

def noContainer (conf : Value) (judge : Nat → Value → Audit (Option Verdict)) (missing : Verdict := .passed) : Ruling := do
  let spec ← specOf conf
  if spec.isDict && (spec.getD "container").truthy then eachContainer .passed spec judge else return missing

def withSpec (conf : Value) (judge : Scan) : Ruling := do
  let some specs := conf.get? "spec" | do inspect ""; return .failed
  judge (← specs.first)

def stopAt (key : String) : Audit (Option Verdict) := do return some (← failAt key)

def failIf (bad : Bool) (key : String) : Audit (Option Verdict) := if bad then stopAt key else return none

def keyAt (i : Nat) (rest : String) : String := s!"spec/[0]/container/[{i}]{rest}"

def block? (v : Value) (key : String) : Result (Option Value) := do
  let b ← v.get key
  if b.truthy then return some (← b.first) else return none

def listed? (v : Value) (key : String) : Result (Option Value) := do
  let b ← v.get key
  if b.truthy && b.isList then return some (← b.first) else return none

def through (step? : Value → String → Result (Option Value)) (v : Value) : List String → Result (Option Value)
  | [] => .ok (some v)
  | k::ks => do
    let some b ← step? v k | return none
    through step? b ks

def inContext (key : String) (bad : Value → Bool) (i : Nat) (container : Value) : Audit (Option Verdict) := do
  let some context ← block? container "security_context" | return none
  failIf (bad (← context.get key)) (keyAt i ("/security_context/[0]/" ++ key))

variable (conf : Value)

def noPrivilegeEscalation : Ruling := do
  let specs := conf.getD "spec"
  if specs.falsy then return .unknown
  let spec ← specs.first
  if spec.falsy then return .unknown
  eachContainer .passed spec (inContext "allow_privilege_escalation" (· == .list [true]))

def noneAdded (step? : Value → String → Result (Option Value)) (bad : Value → Result Bool) : Scan := fun conf => do
  noContainer conf fun i container => do
    let some added ← through step? container ["security_context","capabilities","add"] | return none
    failIf (← bad added) (keyAt i "/security_context/[0]/capabilities/add")

def noAddedCapabilities : Scan := noneAdded block? fun added => .ok added.truthy

def noAdminCapability : Scan := noneAdded listed? (·.has "SYS_ADMIN")

def resourcesGiven (kind amount : String) : Scan := fun conf => do
  withSpec conf (eachContainer .passed · fun i container => do
    let some resources ← block? container "resources" | stopAt (keyAt i "")
    let some amounts ← block? resources kind | stopAt (keyAt i "/resources")
    if amounts.isDict && (amounts.getD amount).truthy then return some .passed
    stopAt (keyAt i s!"/resources/[0]/{kind}"))

def hasSecurityContext : Ruling := do
  noContainer conf fun i container => do failIf (← container.get "security_context").falsy (keyAt i "/security_context")

def notDefaultNamespace : Ruling := do
  let some metadata := conf.get? "metadata" | do inspect ""; return .failed
  let ns ← (← metadata.first).get "namespace"
  if ns.falsy then return .failed
  if ns.isOnly "default" then failAt "metadata/[0]/namespace" else return .passed

def defaultAccountUnmounted : Ruling := do
  let some metadata ← conf.firstOf? "metadata" | return .passed
  if !(← metadata.has "name") then return .passed
  if !(← metadata.field "name").isOnly "default" then return .passed
  if conf.getD "automount_service_account_token" == .list [false] then return .passed
  failAt "metadata/[0]/name"

def defaultAccountUnbound : Ruling := do
  let some subjects := conf.get? "subject" | return .passed
  for (i,subject) in ← subjects.enumerate do
    if (← subject.field "kind").isOnly "ServiceAccount" then
      if (← subject.field "name").isOnly "default" then return ← failAt s!"subject/[{i}]/name"
  return .passed

def mountsSocket (spec : Value) : Result Bool := do
  if !(← spec.has "volume") then return false
  let volumes ← spec.get "volume"
  if volumes.falsy then return false
  for volume in ← volumes.elems do
    if (← volume.get "host_path").truthy then
      let path ← volume.firstOf "host_path"
      if ← path.has "path" then
        if (← path.field "path").isOnly "/var/run/docker.sock" then return true
  return false

def socketNotMounted : Ruling := withSpec conf fun spec => do
  if ← mountsSocket spec then return ← failAt "spec/volume/\x7bidx\x7d/host_path/[0]/path"
  if ← spec.has "template" then
    let template ← spec.get "template"
    if template.truthy then
      let template ← template.first
      if ← template.has "spec" then
        if ← mountsSocket (← (← template.get "spec").first) then return .failed
  return .passed

def dropsRawNetwork : Ruling := withSpec conf fun spec => do
  if (← spec.get "container").falsy then return .failed
  eachContainer .passed spec fun _ container => do
    let stop (rest : String) := stopAt ("spec/[0]/container/\x7bidx\x7d" ++ rest)
    let some context ← listed? container "security_context" | stop ""
    let some capabilities ← listed? context "capabilities" | stop "/security_context"
    let some dropped ← listed? capabilities "drop" | stop "/security_context/[0]/capabilities"
    if (← dropped.elems).any (·.isOneOf ["ALL","NET_RAW"]) then return none
    return some .failed

def policyDropsRawNetwork : Ruling := do
  let some dropped ← through block? conf ["spec","required_drop_capabilities"] | return .failed
  return .passIf (dropped.isList && dropped.items.any (·.isOneOf ["ALL","NET_RAW"]))

def noHostPort : Ruling := withSpec conf fun spec => do
  if spec.falsy then return .failed
  eachContainer .failed spec fun i container => do
    if (← container.get "port").truthy then
      for (j,port) in ← (← container.field "port").enumerate do
        if ← port.has "host_port" then return ← stopAt (keyAt i s!"/port/[{j}]/host_port")
    return some .passed

def imageByDigest : Ruling := do
  let spec ← (conf.getD "spec").first
  if spec.falsy then return .failed
  eachContainer .passed spec fun i container => do
    let some image ← listed? container "image" | return none
    failIf (!(← image.has "@")) (keyAt i "/image")

def imageAlwaysPulled : Ruling := do
  let spec ← specOf conf
  if !(spec.isDict && spec.truthy) then return .failed
  eachContainer .passed spec fun i container => do
    if (← container.get "image_pull_policy").truthy then
      if (← container.firstOf "image_pull_policy") == "Always" then return some .passed
    else if (← container.get "image").truthy then
      if ← (← container.firstOf "image").has "latest" then return some .passed
    stopAt (keyAt i "")

def imageVersionFixed : Ruling := do
  noContainer conf (fun i container => do
    let some image ← block? container "image" | stopAt (keyAt i "")
    if ← image.has ":" then
      if (image.text?.bind fun s => (Text.split s ":")[1]?).any fun tag => tag == "latest" || tag == "" then
        stopAt (keyAt i "/image")
      else if image.isText then return none
      else throw .noMember
    else failIf (!(← image.has "@")) (keyAt i "/image")) .failed

def hasProbe (probe : String) : Scan := fun conf => do
  let spec ← specOf conf
  if !(spec.isDict && spec.truthy) then return .failed
  eachContainer .failed spec fun i container => do
    if (← container.get probe).truthy then return some .passed
    stopAt (keyAt i "")

def dropsCapabilities : Ruling := do
  noContainer conf fun i container => do
    let some capabilities ← through block? container ["security_context","capabilities"] | return none
    let some dropped ← listed? capabilities "drop" | stopAt (keyAt i "/security_context/[0]/capabilities")
    if (← dropped.elems).any (·.isOneOf ["ALL","all"]) then return none
    stopAt (keyAt i "/security_context/[0]/capabilities/drop")

def policyDropsCapabilities : Ruling := do
  inspect ""
  let some spec ← block? conf "spec" | return .failed
  inspect "spec"
  return .passIf (← spec.get "required_drop_capabilities").truthy

def podHasSecurityContext : Ruling := withSpec conf fun spec => do
  if (← spec.get "container").truthy then
    return ← eachContainer .passed spec fun _ container => do
      failIf (← container.get "security_context").falsy "spec/[0]/container/\x7bidx\x7d"
  let some inner ← through listed? spec ["template","spec"] | return .failed
  if (← inner.get "container").falsy then return .failed
  eachContainer .passed inner fun _ container => do
    failIf (← container.get "security_context").falsy "spec/[0]/template/[0]/spec/[0]/container/\x7bidx\x7d"

def notPrivileged : Ruling := do
  let spec ← conf.firstOf "spec"
  if (← spec.get "container").falsy then return .passed
  eachContainer .passed spec (inContext "privileged" (· == .list [true]))

def policyNotPrivileged : Ruling := do
  let spec ← specOf conf
  if spec.isDict && spec.getD "privileged" == .list [true] then failAt "spec/[0]/privileged" else return .passed

def readOnlyRoot : Ruling := noContainer conf (inContext "read_only_root_filesystem" (· != .list [true]))

def policyNotRoot : Ruling := do
  let some spec ← conf.firstOf? "spec" | return .failed
  let some user ← spec.reach? "run_as_user" | return .failed
  let user ← user.first
  if (← user.field "rule").falsy then return .failed
  let rule ← user.firstOf "rule"
  if rule == "MustRunAsNonRoot" then return .passed
  if rule != "MustRunAs" then return .failed
  let ranges ← user.field "range"
  if ranges.falsy then return .failed
  failIfAny (← ranges.elems) fun range => return (← range.firstOf "min") == .int 0

def policyFiltersCalls : Ruling := do
  let some metadata ← conf.firstOf? "metadata" | return .failed
  if !(← metadata.has "annotations") then return .failed
  if (← metadata.get "annotations").falsy then return .failed
  let notes ← metadata.firstOf "annotations"
  if notes.isNull then return .failed
  for key in ← notes.elems do
    let key := String.join (Text.words (← key.asText))
    if key == "seccomp.security.alpha.kubernetes.io/defaultProfileName" then
      let profile := (← notes.get key).display
      if Text.contains profile "docker/default" || Text.contains profile "runtime/default" then return .passed
  return .failed

def secretsNotInEnvironment : Ruling := withSpec conf fun spec => do
  if (← spec.get "container").falsy then return .silent
  eachContainer .passed spec fun i container => do
    if let some env ← listed? container "env" then
      for (j,e) in ← env.enumerate do
        if ← e.has "value_from" then
          let source ← env.get "value_from"
          if source.isList then
            if (← (← source.first).get "secret_key_ref").truthy then
              return ← stopAt (keyAt i s!"/env/[{j}]/value_from/secret_key_ref")
    if let some env ← listed? container "env_from" then
      for (j,e) in ← env.enumerate do
        if ← e.has "secret_ref" then return ← stopAt (keyAt i s!"/env_from/[{j}]/secret_ref")
    return none

def labelledTiller (conf : Value) : Audit Bool := do
  let metadata := conf.getD "metadata"
  if metadata.isList then
    let labels ← (← metadata.first).get "labels"
    if labels.truthy && labels.isList then
      let labels ← labels.first
      if labels.isDict then
        inspect "metadata/[0]/labels"
        for (key,word) in [("app","helm"),("name","tiller")] do
          if labels.getD key == .str word then
            inspect s!"metadata/[0]/labels/[0]/{key}"
            return true
  return false

def notTiller : Ruling := do
  if ← labelledTiller conf then return .failed
  withSpec conf fun spec => do
    if (← spec.get "container").falsy then return .unknown
    eachContainer .passed spec fun i container => do
      let some image ← listed? container "image" | return none
      failIf (← image.has "tiller") (keyAt i "/image")

def notTillerService : Ruling := do
  if ← labelledTiller conf then return .failed
  withSpec conf fun spec => do
    let some selector ← listed? spec "selector" | return .unknown
    if selector.isDict then
      for v in ← selector.valuesOf do
        if Text.contains (Text.lower v.display) "tiller" then return ← failAt "spec/[0]/selector/app"
    return .passed

def noWildcards : Ruling := do
  let rules := conf.getD "rule"
  if !rules.isList then return .passed
  for rule in rules.items do
    for key in ["api_groups","resources","verbs"] do
      if ← rule.has key then
        if ← (← rule.firstOf key).has "*" then return .failed
  return .passed

def checks : List Check := Check.namedAfter InfraAudit.Kubernetes.checks (Check.under "CKV_K8S_" "kubernetes_" [
  .of "20" "" "pod" noPrivilegeEscalation,
  forbids "5" "" "pod_security_policy" "spec/[0]/allow_privilege_escalation" [true],
  .of "25" "" "pod" noAddedCapabilities,
  forbids "24" "" "pod_security_policy" "spec/[0]/allowed_capabilities" [anything],
  .of "39" "" "pod" noAdminCapability,
  .of "11" "=CPU Limits should be set" "pod" (resourcesGiven "limits" "cpu"),
  .of "10" "" "pod" (resourcesGiven "requests" "cpu"),
  .of "30" "" "pod" hasSecurityContext,
  .of "21" "=The default namespace should not be used"
    ["pod","deployment","daemonset","stateful_set","replication_controller","job","cron_job","service","secret","service_account","role_binding","config_map","ingress"]
    notDefaultNamespace,
  .of "41" "" "service_account" defaultAccountUnmounted,
  .of "42" "" ["role_binding","cluster_role_binding"] defaultAccountUnbound,
  .of "27" "" ["pod","deployment","daemonset"] socketNotMounted,
  .of "28" "" "pod" dropsRawNetwork,
  .of "7" "" "pod_security_policy" policyDropsRawNetwork,
  .of "26" "" "pod" noHostPort,
  .of "43" "" "pod" imageByDigest,
  .of "15" "" "pod" imageAlwaysPulled,
  .of "14" "" "pod" imageVersionFixed,
  .onKeys "8" "" "pod" "spec/[0]/container/[0]/liveness_probe/[0]" (hasProbe "liveness_probe"),
  .of "12" "=Memory Limits should be set" "pod" (resourcesGiven "limits" "memory"),
  .of "13" "=Memory requests should be set" "pod" (resourcesGiven "requests" "memory"),
  .of "37" "=Minimise the admission of containers with capabilities assigned" "pod" dropsCapabilities,
  .of "36" "=Minimise the admission of containers with capabilities assigned" "pod_security_policy"
    policyDropsCapabilities,
  .of "29" "" ["pod","deployment","daemonset"] podHasSecurityContext,
  .of "16" "=Do not admit privileged containers" "pod" notPrivileged,
  .of "2" "" "pod_security_policy" policyNotPrivileged,
  .onKeys "9" "" "pod" "spec/[0]/container/[0]/readiness_probe/[0]" (hasProbe "readiness_probe"),
  .of "22" "" "pod" readOnlyRoot,
  .of "6" "" "pod_security_policy" policyNotRoot,
  .of "32" "" "pod_security_policy" policyFiltersCalls,
  .of "35" "" "pod" secretsNotInEnvironment,
  forbids "18" "=Do not admit containers wishing to share the host IPC namespace" "pod" "spec/[0]/host_ipc" [true],
  forbids "3" "" "pod_security_policy" "spec/[0]/host_ipc" [true],
  expects "17" "=Do not admit containers wishing to share the host process ID namespace" "pod" "spec/[0]/host_pid"
    [false] .passed,
  expects "1" "" "pod_security_policy" "spec/[0]/host_pid" [false] .passed,
  expects "19" "=Do not admit containers wishing to share the host network namespace" "pod" "spec/[0]/host_network"
    [false] .passed,
  expects "4" "" "pod_security_policy" "spec/[0]/host_network" [false] .passed,
  .of "34" "" "pod" notTiller,
  .of "44" "" "service" notTillerService,
  .of "49" "" ["role","cluster_role"] noWildcards])

end InfraAudit.Terraform.Kubernetes
