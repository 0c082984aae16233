import InfraAudit.Text.Pattern.Reader

namespace InfraAudit.Secrets

open Text

inductive Origin where
  | azure
  | aws
  | gcp
  | general
  deriving DecidableEq, Repr

def Origin.ofName? : String → Option Origin
  | "azure" => some .azure
  | "aws" => some .aws
  | "gcp" => some .gcp
  | "general" => some .general
  | _ => none

def across (source : String) := Pattern.of ("(?s)" ++ source)

def inAnyCase (host : String) : String :=
  String.join (host.toList.map fun c => if c == '.' then "[.]" else s!"[{c}|{c.toUpper}]")

def azureHosts :=
  ["onmicrosoft.com","blob.core.windows.net","queue.core.windows.net","table.core.windows.net","database.windows.net",
    "servicebus.windows.net","timeseries.azure.com"].map inAnyCase ++
  ("[a|T]" ++ inAnyCase "ccesscontrol.windows.net") ::
    ["azurehdinsight.net","cloudapp.azure.com","cloudapp.net","documents.azure.com"].map inAnyCase

structure SecretPattern where
  whole : Pattern
  core : Pattern

def SecretPattern.plain (source : String) : SecretPattern := ⟨across source,across source⟩

def SecretPattern.occursIn (p : SecretPattern) (s : String) : Bool := p.core.occursIn s

def SecretPattern.findAll (p : SecretPattern) (s : String) : List String :=
  if p.core.occursIn s then (p.whole.findAll s).map (·.whole) else []

/-- Anything up to a host name. It may be empty, so the name alone decides. -/
def hostPattern (host : String) : SecretPattern :=
  let name := "[0-9a-zA-Z]\x7b2,256\x7d[.]" ++ host
  ⟨across ("(\"|')?.*" ++ name ++ "(\"|')?"),across name⟩

def azurePatterns : List SecretPattern :=
  [.plain "(\"|')?([0-9A-Fa-f]\x7b4\x7d-)\x7b4\x7d[0-9A-Fa-f]\x7b12\x7d(\"|')?",
    .plain "(\"|')?[0-9A-Fa-f]\x7b8\x7d-([0-9A-Fa-f]\x7b4\x7d-)\x7b3\x7d[0-9A-Fa-f]\x7b12\x7d(\"|')?"] ++
  azureHosts.map hostPattern

def awsPatterns : List SecretPattern :=
  [.plain "(?<![A-Za-z0-9/+=])[A-Za-z0-9/+=]\x7b40\x7d(?![A-Za-z0-9/+=])",
    .plain "(A3T[A-Z0-9]|AKIA|AGPA|AIDA|AROA|AIPA|ANPA|ANVA|ASIA)[A-Z0-9]\x7b16\x7d",
    .plain ("(\"|')?(AWS|aws|Aws)?_?(SECRET|secret|Secret)?_?(ACCESS|access|Access)?_?(KEY|key|Key)(\"|')?" ++
      "\\s*(:|=>|=)\\s*(\"|')?[A-Za-z0-9/\\+=]\x7b40\x7d(\"|')?"),
    .plain ("(\"|')?(AWS|aws|Aws)?_?(ACCOUNT|account|Account)_?(ID|id|Id)?(\"|')?\\s*(:|=>|=)\\s*" ++
      "(\"|')?[0-9]\x7b4\x7d\\-?[0-9]\x7b4\x7d\\-?[0-9]\x7b4\x7d(\"|')?")]

def gcpPatterns : List SecretPattern := [.plain "\x08private_key.*\x08"]

def generalPatterns : List SecretPattern := [.plain "^-----BEGIN (RSA|EC|DSA|GPP) PRIVATE KEY-----$"]

def patternsOf : Origin → List SecretPattern
  | .azure => azurePatterns
  | .aws => awsPatterns
  | .gcp => gcpPatterns
  | .general => generalPatterns

def patternsFor (origins : List Origin) : List SecretPattern :=
  (if origins.isEmpty then [.azure,.aws,.gcp,.general] else origins).flatMap patternsOf

def digestPatterns : List Pattern :=
  [Pattern.of "(?i)^[a-f0-9]\x7b32\x7d$",Pattern.of "(?i)^[a-f0-9]\x7b40\x7d$"]

variable (s : String)

def isDigest : Bool := digestPatterns.any (·.occursIn s)

def occurIn (origins : List Origin) : Bool := !isDigest s && (patternsFor origins).any (·.occursIn s)

def of (origins : List Origin) : List String :=
  if isDigest s then [] else (patternsFor origins).flatMap (·.findAll s)

def allOrigins : String := "all"

/-- Whether secrets of a named origin occur; names after the first such one are not looked at. -/
def occurInNamed (s : String) : List String → Result Bool
  | [] => .ok false
  | name::names =>
    match Origin.ofName? name with
    | none => .error .missingKey
    | some o => if occurIn s [o] then .ok true else occurInNamed s names

def occurInFrom (names : List String) : Result Bool :=
  if names.isEmpty || names.contains allOrigins then .ok (occurIn s [])
  else if isDigest s then .ok false
  else occurInNamed s names

def ofNamed (names : List String) : Result (List String) :=
  if names.isEmpty || names.contains allOrigins then .ok (of s [])
  else if isDigest s then .ok []
  else do
    let origins ← names.mapM fun n => (Origin.ofName? n).elim (.error .missingKey) .ok
    return of s origins

def mask (secret line : String) : String :=
  match find? line secret with
  | none => line
  | some i =>
    let shown := secret.length / 4
    take line (i+shown) ++ String.ofList (List.replicate (secret.length - shown) '*') ++
      drop line (i+secret.length)

def maskAll (secrets : List String) (line : String) : String := secrets.foldl (fun line s => mask s line) line

end InfraAudit.Secrets
