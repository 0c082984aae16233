import InfraAudit.Kubernetes.Container

namespace InfraAudit.Kubernetes

open Text

inductive CommandForm where
  | filled
  | given
  | words
  deriving DecidableEq, Repr

def CommandForm.admits : CommandForm → Value → Bool
  | .filled,v => v.truthy
  | .given,v => !v.isNull
  | .words,v => v.isList

def running (component : String) (judge : Value → Result Verdict) (form : CommandForm := .filled) : ContainerRule :=
  lookingAt ["command"] fun _ c => do
    let command ← c.get "command"
    if !form.admits command then return .passed
    if ← command.has component then judge command else return .passed

def isSetTo (option value : String) (command : Value) : Result Bool := command.has s!"{option}={value}"

def requireSetting (option value : String) (command : Value) : Result Verdict := do
  return .passIf (← isSetTo option value command)

def forbidSetting (option value : String) (command : Value) : Result Verdict := do
  return .passIf !(← isSetTo option value command)

def turnedTo (option wrong right : String) (command : Value) : Result Verdict := do
  if ← isSetTo option wrong command then return .failed
  requireSetting option right command

def firstVerdict (judge : Value → Result (Option Verdict)) (otherwise : Verdict) (words : List Value) : Result Verdict := do
  return (← words.findSomeM? judge).getD otherwise

def option? (word : Value) : Result (Option (String × String)) := do
  if !(← word.has "=") then return none
  match ← word.splitOn "=" with
  | name::value :: _ => return some (name,value)
  | _ => return none

def valueOf? (option : String) (word : Value) : Result (Option String) := do
  return ((← option? word).filter (·.1 == option)).map Prod.snd

def valueIn (word : Value) : Result String := do
  match ← word.splitOn "=" with
  | _::value :: _ => return value
  | _ => throw .outOfRange

variable (option : String) (command : Value)

def refuseValue (refused : String → Bool) (command : Value) : Result Verdict := do
  firstVerdict (fun word => do
    if word == .str option then return some .failed
    return if (← valueOf? option word).any refused then some .failed else none) .passed (← command.elems)

def needsPlugin (plugins : List String) : Value → Result Verdict :=
  refuseValue "--enable-admission-plugins" fun value => !plugins.any (contains value ·)

def requireValue (option expected : String) (command : Value) : Result Verdict := do
  return .passIf (← (← command.elems).anyM fun word => return (← valueOf? option word) == some expected)

def firstStarting (judge : String → Result (Option Verdict)) (otherwise : Verdict) (command : Value) : Result Verdict := do
  firstVerdict (fun word => do
    if ← word.startsWith option then judge (← valueIn word) else return none) otherwise (← command.elems)

def startingWords (option : String) : Result (List Value) := do (← command.elems).filterM (·.startsWith option)

def requireStart : Result Verdict := do
  return .passIf !(← startingWords command option).isEmpty

def forbidStart : Result Verdict := do
  return .passIf !(← (← command.elems).anyM (·.startsWith option))

def requirePair (certificate key : String) (command : Value) : Result Verdict := do
  let certificates ← startingWords command certificate
  let keys ← (← command.elems).filterM fun w => do return (← w.startsWith key) && !(← w.startsWith certificate)
  return .passIf (!certificates.isEmpty && !keys.isEmpty)

def requirePairSoon (certificate key : String) : Bool → Bool → List Value → Result Verdict
  | _,_,[] => .ok .failed
  | hasCertificate,hasKey,w :: ws => do
    let isCertificate ← w.startsWith certificate
    let hasCertificate := hasCertificate || isCertificate
    let hasKey := hasKey || (!isCertificate && (← w.startsWith key))
    if hasCertificate && hasKey then return .passed
    requirePairSoon certificate key hasCertificate hasKey ws

def forbidOption : Result Verdict := do
  let names ← (← command.elems).mapM fun w => do return (← w.splitOn "=").headD ""
  return .passIf !(names.contains option)

def atLeast (n : Int) : Value → Result Verdict :=
  firstStarting option (fun s => do return some (.passIf ((← Decimal.integer s) ≥ n))) .failed

def requireMode (option mode : String) (command : Value) : Result Verdict := do
  let named ← (← command.elems).filterM fun w => do
    if ← w.startsWith option then return (split (← valueIn w) ",").contains mode
    return false
  return .passIf !named.isEmpty

def forbidMode (option mode : String) : Value → Result Verdict :=
  firstStarting option (fun s => .ok (some (.passIf !((split s ",").contains mode)))) .passed

def strongCiphers :=
  ["TLS_ECDHE_ECDSA_WITH_AES_128_GCM_SHA256","TLS_ECDHE_RSA_WITH_AES_128_GCM_SHA256",
    "TLS_ECDHE_ECDSA_WITH_CHACHA20_POLY1305","TLS_ECDHE_RSA_WITH_AES_256_GCM_SHA384",
    "TLS_ECDHE_RSA_WITH_CHACHA20_POLY1305","TLS_ECDHE_ECDSA_WITH_AES_256_GCM_SHA384",
    "TLS_RSA_WITH_AES_256_GCM_SHA384","TLS_RSA_WITH_AES_128_GCM_SHA256"]

def onlyStrongCiphers : Value → Result Verdict :=
  firstStarting "--tls-cipher-suites" (fun s =>
    .ok (if (split s ",").all strongCiphers.contains then none else some .failed)) .passed

def certificateFile : Value → Result Verdict :=
  firstStarting option (fun s =>
    match split s "." with
    | _::ending :: _ => .ok (some (.passIf (ending == "pem")))
    | _ => .error .outOfRange) .passed

def someStarting (option expected : String) : Value → Result Verdict :=
  firstStarting option (fun s => .ok (if s == expected then some .passed else none)) .failed

def timeoutPattern : Pattern :=
  Pattern.of ("^(\\d\x7b1,2\x7d[h])(\\d\x7b1,2\x7d[m])?(\\d\x7b1,2\x7d[s])?$|" ++
    "^(\\d\x7b1,2\x7d[m])?(\\d\x7b1,2\x7d[s])?$|^(\\d\x7b1,2\x7d[s])$")

def pemPattern := Pattern.of "^(.*)\\.pem$"

def fewEvents : Result Verdict := do
  firstVerdict (fun word => do
    let some value ← valueOf? "--event-qps" word | return none
    return if (← Decimal.integer value) > 5 then some .failed else none) .passed (← command.elems)

def serverCertificateRenewed : ContainerRule := fun _ c => do
  let .list words ← c.get "command" | return (.passed,[])
  if !(["kube-controller-manager","kubelet"].any fun k => (Value.str k).elem words) then return (.passed,[])
  for (word,i) in words.zipIdx do
    if ← word.startsWith "--feature-gates" then
      if ← word.has "RotateKubeletServerCertificate=false" then return (.failed,[s!"command/[{i}]"])
  return (.passed,[])

def optionsOf (c : Value) : Result Entries := do
  let command ← c.get "command"
  if command.falsy then return []
  (← command.elems).filterMapM fun w => do
    if w.isNull then return none
    if !(← w.has "=") then return some (w,.null)
    let i := Int.ofNat (← w.indexOf "=")
    return some (← w.sliced none (some i),← w.sliced (some (i+1)) none)

def hasOption (options : Entries) (name : String) : Bool := options.any fun (k,_) => k == .str name

def requireOptions (component : String) (names : List String) : ContainerRule :=
  lookingAt ["command"] fun _ c => do
    let options ← optionsOf c
    return .passIf (!hasOption options component || names.all (hasOption options))

def agentAuthority : ContainerRule :=
  lookingAt [] fun _ c => do
    let options ← optionsOf c
    return .passIf (!hasOption options "kube-apiserver" || hasOption options "--kubelet-certificate-authority")

def readOnlyPortClosed : ContainerRule :=
  lookingAt ["command"] fun _ c => do
    let options ← optionsOf c
    if !hasOption options "kubelet" then return .passed
    return .passIf ((options.find? (·.1 == .str "--read-only-port")).any (·.2 == .str "0"))

end InfraAudit.Kubernetes
