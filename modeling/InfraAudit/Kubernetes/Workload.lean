import InfraAudit.Kubernetes.Container

namespace InfraAudit.Kubernetes

variable (object : Value)

def templatePart (key : String) : Result Value := do
  let spec ← object.get "spec"
  if spec.falsy then return .dict []
  let template ← spec.get "template"
  if template.falsy then return .dict []
  template.getOr key (.dict [])

def podSpec : Result Value := do
  let kind ← object.field "kind"
  if kind == "Pod" then return (object.get? "spec").getD (.dict [])
  if kind == "CronJob" then return (← object.reach? ["spec","jobTemplate","spec","template","spec"]).getD (.dict [])
  let spec ← templatePart object "spec"
  return if spec.truthy then spec else .dict []

def workloadKinds := ["Pod","Deployment","DaemonSet","StatefulSet","ReplicaSet","ReplicationController","Job","CronJob"]

def withPod (missing : Verdict) (judge : Scan) : Ruling := do
  let spec ← podSpec object
  if spec.falsy then return missing else judge spec

def notShared (key : String) : Scan := (withPod · .failed fun spec => do
  return .passIf ((← spec.reach? key).all (·.falsy)))

def securityContextGiven : Ruling := withPod object .failed fun spec => do
  return .passIf (← spec.get "securityContext").truthy

def tokenNotMounted : Ruling := withPod object .failed fun spec => do
  return .passIf ((← spec.reach? "automountServiceAccountToken").any (·.isFalse))

def noEngineSocket : Ruling := withPod object .passed fun spec => do
  let .list volumes ← spec.getOr "volumes" (.list []) | return .unknown
  for v in volumes do
    if let some hostPath ← given? v "hostPath" then
      if (← hostPath.get "path") == "/var/run/docker.sock" then return .failed
  return .passed

inductive Stated where
  | kept
  | broken
  | absent
  deriving DecidableEq, Repr

def Stated.of (holds : Bool) : Stated := if holds then .kept else .broken

def stated (v : Value) (key : String) (holds : Value → Bool) : Result Stated := do
  let context ← v.get "securityContext"
  if context.truthy && context.isDict then return (context.get? key).elim .absent (.of <| holds ·)
  return .absent

def nonRoot (v : Value) : Result Stated := stated v "runAsNonRoot" Value.truthy

def userFrom (lowest : Int) (v : Value) : Result Stated := stated v "runAsUser" (·.int?.any (· ≥ lowest))

def noRootContainers : Ruling := withPod object .failed fun spec => do
  let podNonRoot ← nonRoot spec
  let podUser ← userFrom 1 spec
  let .list containers ← spec.getOr "containers" (.list []) | return .unknown
  let said ← containers.mapM fun c => do return (← nonRoot c,← userFrom 1 c)
  if podNonRoot == .kept then return .passIf !(said.any fun (n,u) => n == .broken && u != .kept)
  if podUser == .kept then return .passIf !(said.any fun (_,u) => u == .broken)
  return .passIf (said.all fun (n,u) => n == .kept || u == .kept)

def highUsers : Ruling := withPod object .failed fun spec => do
  let pod ← userFrom 10000 spec
  let .list containers ← spec.getOr "containers" (.list []) | return .unknown
  let said ← containers.mapM fun c => (userFrom 10000 c : Result Stated)
  if pod == .kept then return .passIf !(said.contains .broken)
  return .passIf (!said.isEmpty && said.all (· == .kept))

def namesDefaultProfile (key : String) (note : Value) : Result Bool := do
  (← note.elems).anyM fun k => do
    if !(← k.has key) then return false
    let v ← note.item k
    ["docker/default","runtime/default"].anyM v.has

def someDefaultProfile (key : String) (notes : List Value) : Result Verdict := do
  return .passIf (← notes.anyM (namesDefaultProfile key))

def repeatedMetadata : Result (Value ⊕ Verdict) := do
  let some template ← object.reach? ["spec","jobTemplate","spec","template"] | return .inl (.dict [])
  if ← template.has "metadata" then return .inl (← template.field "metadata")
  let some spec ← template.reach? ["spec"] | return .inl (.dict [])
  if ← spec.has "metadata" then return .inl (← spec.field "metadata")
  if ← spec.has "securityContext" then
    let profile ← (← spec.field "securityContext").getOr "seccompProfile" (.dict [])
    return .inr (.passIf ((← profile.get "type") == "RuntimeDefault"))
  return .inl (.dict [])

def profileMetadata : Result (Value ⊕ Verdict) := do
  let kind ← object.field "kind"
  let decided (path : List String) : Option Verdict :=
    let profile := (path ++ ["securityContext","seccompProfile","type"]).foldl .getD object
    if profile.truthy then some (.passIf (profile == "RuntimeDefault")) else none
  if kind.isOneOf ["Deployment","StatefulSet","DaemonSet","Job","ReplicaSet"] then
    if let some v := decided ["spec","template","spec"] then return .inr v
    let metadata ← templatePart object "metadata"
    if metadata.truthy then return .inl metadata
    return .inl ((object.get? "metadata").getD metadata)
  if kind == "CronJob" then return ← repeatedMetadata object
  let isPod := kind == "Pod"
  if isPod then
    if let some v := decided ["spec"] then return .inr v
  let inner ← templatePart object "metadata"
  if inner.truthy then return .inl inner
  return .inl (if isPod then (object.get? "metadata").getD (.dict []) else .dict [])

def systemCallProfile : Ruling := do
  match ← profileMetadata object with
  | .inr v => return v
  | .inl metadata =>
    if metadata.falsy then return .failed
    let some annotations ← given? metadata "annotations" | return .failed
    someDefaultProfile "seccomp.security.alpha.kubernetes.io/pod" (← annotations.listed.elems)

def policyPart? (key : String) : Result (Option Value) := object.reach? ["spec",key]

def policyNoPrivilegeEscalation : Ruling := do
  if !(← object.has "spec") then return .silent
  return .passIf ((← policyPart? object "allowPrivilegeEscalation").any (·.falsy))

def policyNoAddedCapabilities : Ruling := do
  return .passIf (((← policyPart? object "allowedCapabilities").getD .null).falsy)

def policyDropsCapabilities : Ruling := do
  return .passIf (((← policyPart? object "requiredDropCapabilities").getD .null).truthy)

def policyDropsRawNetwork : Ruling := do
  let spec ← object.get "spec"
  if !spec.truthy || !spec.isDict then return .failed
  match spec.getD "requiredDropCapabilities" with
  | .list xs => return .passIf (["ALL","NET_RAW"].any fun s => (Value.str s).elem xs)
  | _ => return .failed

def policyNonRoot : Ruling := do
  let some user ← policyPart? object "runAsUser" | return .failed
  let some rule ← user.reach? ["rule"] | return .failed
  if rule == "MustRunAsNonRoot" then return .passed
  if rule != "MustRunAs" then return .failed
  if !(← user.has "ranges") then return .failed
  Audit.failIfAny (← (← user.field "ranges").elems) fun range => return (← range.field "min") == .int 0

def policyProfile : Ruling := do
  let some metadata ← object.reach? ["metadata"] | return .failed
  if !(← metadata.has "annotations") then return .failed
  let annotations ← metadata.get "annotations"
  if annotations.falsy then return .failed
  someDefaultProfile "seccomp.security.alpha.kubernetes.io/defaultProfileName" (← annotations.elems)

def omittedOrOff (path : String) : Scan := fun object => do
  return .passIf ((← object.at? path).all (· == .bool false))

def isBuiltin (kind name : String) : Result Bool := do
  if (← object.field "kind") != .str kind then return false
  return (← (← object.field "metadata").field "name") == .str name

def ownNamespace : Ruling := do
  let some metadata ← object.reach? ["metadata"] | return .failed
  if ← metadata.has "namespace" then
    if (← metadata.field "namespace") != "default" then return .passed
  if ← isBuiltin object "ServiceAccount" "default" then return .passed
  return .passIf (← isBuiltin object "Service" "kubernetes")

def defaultAccountUnused : Ruling := do
  let some metadata ← object.reach? ["metadata"] | return .passed
  if !(← metadata.has "name") then return .passed
  if (← metadata.field "name") != "default" then return .passed
  return .passIf (object.getD "automountServiceAccountToken").isFalse

def defaultAccountUnbound : Ruling := do
  let .list subjects := object.getD "subjects" | return .passed
  for s in subjects do
    if (← s.field "kind") == "ServiceAccount" then
      if (← s.field "name") == "default" then return .failed
  return .passed

def hasStar (rule : Value) (key : String) : Result Bool := do
  if !(← rule.has key) then return false
  someMentions ["*"] (← (← rule.field key).elems)

def noWildcards : Ruling := do
  let .list (rule::_) ← object.get "rules" | return .passed
  Audit.failIfAny ["apiGroups","resources","verbs"] (hasStar rule)

structure Operation where
  groups : List String
  verbs : List String
  resources : List String

def grants (rule : Value) (key : String) (values : List String) : Result Bool := do
  if !(← rule.has key) then return false
  return (← (← rule.field key).elems).any fun v => v == "*" || v.isOneOf values

/-- A star stands for all, and before a slash for all with the part behind it. -/
def covers (resources : List String) (v : Value) : Result Bool :=
  if v == "*" then .ok true
  else resources.anyM fun r => do
    if v == .str r then return true
    if !Text.contains r "/" then return false
    return (← v.has "/") && v == .str ("*/" ++ ((Text.split r "/").getD 1 ""))

def allows (op : Operation) (rule : Value) : Result Bool := do
  if !(← grants rule "apiGroups" op.groups) then return false
  if !(← grants rule "verbs" op.verbs) then return false
  if !(← rule.has "resources") then return false
  (← (← rule.field "resources").elems).anyM (covers op.resources)

def notAllowed (operations : List Operation) : Scan := fun object => do
  let .list rules ← object.get "rules" | return .passed
  if rules.isEmpty then return .passed
  return .passIf !(← (operations.allM fun op => rules.anyM (allows op) : Result _))

def approveCertificates : List Operation := [
  ⟨["certificates.k8s.io"],["update","patch"],["certificatesigningrequests/approval"]⟩,
  ⟨["certificates.k8s.io"],["approve"],["signers"]⟩]

def bindRoles : List Operation := [⟨["rbac.authorization.k8s.io"],["bind"],["rolebindings","clusterrolebindings"]⟩]

def controlWebhooks : List Operation := [
  ⟨["admissionregistration.k8s.io"],["create","update","patch"],
    ["mutatingwebhookconfigurations","validatingwebhookconfigurations"]⟩]

def escalateRoles : List Operation := [⟨["rbac.authorization.k8s.io"],["escalate"],["roles","clusterroles"]⟩]

def noAnnotation (refused : Value → Result Bool) (object : Value) : Result Verdict := do
  let metadata ← object.field "metadata"
  if metadata.falsy then return .passed
  let some annotations ← given? metadata "annotations" | return .passed
  return .passIf !(← (← annotations.listed.elems).anyM refused)

def snippetIs (refused : Value → Result Bool) (note : Value) : Result Bool := do
  (← note.pairs).anyM fun (k,v) => do if ← k.has "snippet" then refused v else return false

def noAliasSnippet : Ruling := noAnnotation (snippetIs (·.has "alias")) object

def luaPattern := Text.Pattern.of "\\blua_|_lua\\b|_lua_|\\bkubernetes\\.io\\b"

def noLuaSnippet : Ruling := noAnnotation (snippetIs fun v => do return luaPattern.occursIn (← v.needText)) object

def noSnippet : Ruling := noAnnotation (fun a => do (← a.elems).anyM (·.has "snippet")) object

def storePeersChecked : Ruling := do
  if (← (← object.get "metadata").field "name") != "etcd" then return .unknown
  for c in ← (← (← object.get "spec").field "containers").elems do
    let args ← c.get "args"
    if !args.isNull then
      if !(← args.has "--peer-client-cert-auth=true") then return .failed
  return .passed

def eventsLimited : Ruling := do
  let some plugins ← object.reach? "plugins" | return .failed
  return .passIf (← Audit.anyOf (← plugins.elems) fun plugin => return (← plugin.field "name") == "EventRateLimit")

def mentionsTiller (v : Value) : Bool := Text.contains (Text.lower v.display) "tiller"

def noTillerService : Ruling := do
  let metadata ← object.get "metadata"
  if metadata.truthy then
    if ← metadata.has "name" then
      if mentionsTiller (← metadata.field "name") then return .failed
    let labels ← metadata.get "labels"
    if labels.isDict && labels.fields.any fun (_,v) => mentionsTiller v then return .failed
  let spec ← object.get "spec"
  if spec.truthy then
    let selector ← spec.get "selector"
    if selector.isDict && selector.fields.any fun (_,v) => mentionsTiller v then return .failed
  return .unknown

end InfraAudit.Kubernetes
