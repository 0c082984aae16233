import InfraAudit.Check
import InfraAudit.Text.Pattern.Reader

namespace InfraAudit.Kubernetes

open Text

abbrev ContainerRule := Value → Value → Result (Verdict × List String)

def lookingAt (keys : List String) (judge : Value → Value → Result Verdict) : ContainerRule :=
  fun metadata container => do return (← judge metadata container,keys)

structure Pod where
  path : String
  spec : Value
  metadata : Value

namespace Pod

def templateKinds :=
  ["Deployment","DeploymentConfig","DaemonSet","Job","ReplicaSet","ReplicationController","StatefulSet"]

def follow (v : Value) : List String → Result Value
  | [] => .ok v
  | k::ks => do follow (← v.field k) ks

def atTemplate (object : Value) (keys : List String) : Result Pod := do
  let template ← follow object keys
  return {
    path := join "/" (keys ++ ["spec"])
    spec := ← template.field "spec"
    metadata := ← template.getOr "metadata" (.dict []) }

def tolerating (faults : List Fault) (r : Result Pod) : Result (Option Pod) :=
  match r with
  | .ok p => .ok (some p)
  | .error e => if faults.contains e then .ok none else .error e

def of? (kind : String) (object : Value) : Result (Option Pod) :=
  if kind == "Pod" then tolerating [.missingKey] (atTemplate object [])
  else if kind == "PodTemplate" then tolerating [.missingKey] (atTemplate object ["template"])
  else if templateKinds.contains kind then tolerating [.missingKey,.wrongKind] (atTemplate object ["spec","template"])
  else if kind == "CronJob" then
    tolerating [.missingKey,.wrongKind] (atTemplate object ["spec","jobTemplate","spec","template"])
  else .ok none

def containers (p : Pod) (type : String) : List Value := (p.spec.getD type).items

def firstBroken (p : Pod) (rule : ContainerRule) (type : String) : Nat → List Value → Result (Option (List String))
  | _,[] => .ok none
  | i,c :: cs => do
    match ← rule p.metadata c with
    | (.failed,[]) => return some [s!"{p.path}/initContainers/[{i}]"]
    | (.failed,keys) => return some (keys.map fun k => s!"{p.path}/{type}/[{i}]/{k}")
    | _ => firstBroken p rule type (i+1) cs

end Pod

def scanContainers (rule : ContainerRule) (types : List String := ["containers","initContainers"]) :
    String → Scan := fun kind object => do
  let some p ← Pod.of? kind object | return .unknown
  for type in types do
    if let some keys ← p.firstBroken rule type 0 (p.containers type) then
      return ← Audit.failAt keys
  return .passed

def containerKinds := ["CronJob","Pod","PodTemplate"] ++ Pod.templateKinds

def onContainers (id name : String) (rule : ContainerRule) : Check :=
  .byType id name containerKinds (scanContainers rule)

def given? (v : Value) (key : String) : Result (Option Value) := do
  let x ← v.get key
  return (some x).filter (·.truthy)

def capabilities? (container : Value) (word : String) : Result (Option Value) := do
  let some context ← given? container "securityContext" | return none
  let some capabilities ← given? context "capabilities" | return none
  given? capabilities word

def noPrivilegeEscalation : ContainerRule :=
  lookingAt "securityContext/allowPrivilegeEscalation" fun _ c => do
    if !c.isDict then return .failed
    let some context ← given? c "securityContext" | return .failed
    return .passIf (← context.get "allowPrivilegeEscalation").isFalse

def noAddedCapabilities : ContainerRule :=
  lookingAt "securityContext/capabilities/add" fun _ c => do return .passIf (← capabilities? c "add").isNone

def noAdminCapability : ContainerRule :=
  lookingAt "securityContext/capabilities/add" fun _ c => do
    let some added ← capabilities? c "add" | return .passed
    return .passIf !(← added.has "SYS_ADMIN")

def someMentions (words : List String) (vs : List Value) : Result Bool := vs.anyM fun v => words.anyM v.has

def drops (words : List String) : ContainerRule :=
  lookingAt "securityContext/capabilities/drop" fun _ c => do
    let some dropped ← capabilities? c "drop" | return .failed
    return .passIf (← someMentions words (← dropped.elems))

def dropsAll : ContainerRule := fun metadata c =>
  if c.isDict then drops ["ALL","all"] metadata c
  else .ok (.failed,["securityContext/capabilities/drop"])

variable (key : String)

def inContext (wanted : Bool) : ContainerRule :=
  lookingAt ["securityContext/" ++ key] fun _ c => do
    let some context ← given? c "securityContext" | return .passIf !wanted
    return .passIf ((← context.get key).truthy == wanted)

def gives : ContainerRule := lookingAt [key] fun _ c => do return .passIf (← c.get key).truthy

def resourceGiven (kind amount : String) : ContainerRule :=
  lookingAt [join "/" ["resources",kind,amount]] fun _ c => do
    let some resources ← given? c "resources" | return .failed
    let some kinds ← given? resources kind | return .failed
    return .passIf (← kinds.get amount).truthy

def noHostPort : ContainerRule := fun _ c => do
  let some ports ← given? c "ports" | return (.passed,[])
  for (i,port) in ← ports.enumerate do
    if ← port.has "hostPort" then return (.failed,[s!"ports/[{i}]/hostPort"])
  return (.passed,[])

def noSecretVariables : ContainerRule := fun _ c => do
  if let some env ← given? c "env" then
    for (i,e) in ← env.enumerate do
      if ← e.has "valueFrom" then
        if ← (← e.field "valueFrom").has "secretKeyRef" then return (.failed,[s!"env/[{i}]/valueFrom/secretKeyRef"])
  if let some env ← given? c "envFrom" then
    for (i,e) in ← env.enumerate do
      if ← e.has "secretRef" then return (.failed,[s!"envFrom/[{i}]/secretRef"])
  return (.passed,["env","envFrom"])

def imagePattern := Text.Pattern.of "(?:[^\\s\\/]+\\/)?([^\\s:]+):?([^\\s]*)"

def imageTags (s : String) : List String := (imagePattern.findAll s).map fun m => (m.group? 2).getD ""

def isMovingTag (tag : String) : Bool := tag == "latest" || tag == ""

def imageDigest : ContainerRule :=
  lookingAt "image" fun _ c => do
    let some (.str s) ← c.reach? "image" | return .failed
    return .passIf (contains s "@")

def alwaysPulled : ContainerRule :=
  lookingAt ["image","imagePullPolicy"] fun _ c => do
    let some image ← given? c "image" | return .failed
    let .str s := image | return .unknown
    if (strip s).isEmpty then return .unknown
    if ← c.has "imagePullPolicy" then return .passIf ((← c.field "imagePullPolicy") == "Always")
    match imageTags ((split s "@").headD "") with
    | [tag] => return .passIf (isMovingTag tag)
    | _ => return .unknown

def fixedTag : ContainerRule :=
  lookingAt "image" fun _ c => do
    let some image ← given? c "image" | return .failed
    let .str s := image | return .unknown
    if (strip s).isEmpty then return .unknown
    if contains s "@" then return .passed
    match imageTags s with
    | [] => return .unknown
    | tag::_ => return .passIf !(isMovingTag tag)

def noDashboard : ContainerRule :=
  lookingAt "image" fun metadata c => do
    let some image ← given? c "image" | return .failed
    let .str s := image | return .failed
    if contains s "kubernetes-dashboard" || contains s "kubernetesui" then return .failed
    if metadata.falsy then return .passed
    let some labels ← given? metadata "labels" | return .passed
    for key in ["app","k8s-app"] do
      if ← labels.has key then return .passIf ((← labels.field key) != "kubernetes-dashboard")
    return .passed

def isTiller (metadata c : Value) : Result Bool := do
  if let .str s ← c.get "image" then
    if contains s "tiller" then return true
  if metadata.falsy then return false
  let some labels ← given? metadata "labels" | return false
  if (← labels.get "app") == "helm" then return true
  return (← labels.get "name") == "tiller"

def noTiller : ContainerRule := lookingAt "image" fun metadata c => do return .passIf !(← isTiller metadata c)

def listensLocally (arg : Value) : Result Bool := do
  if !(← arg.has "--listen") then return false
  if ← arg.has "localhost" then return true
  arg.has "127.0.0.1"

def tillerListensLocally : ContainerRule :=
  lookingAt ["image","arge"] fun metadata c => do
    if !(← isTiller metadata c) then return .unknown
    let some args ← given? c "args" | return .failed
    return .passIf (← (← args.elems).anyM listensLocally)

end InfraAudit.Kubernetes
