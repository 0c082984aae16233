import InfraAudit.Value.Access

namespace InfraAudit

inductive Severity where
  | none
  | low
  | medium
  | high
  | critical
  deriving DecidableEq, Repr, Inhabited

namespace Severity

def level : Severity → Nat
  | .none => 0
  | .low => 1
  | .medium => 2
  | .high => 3
  | .critical => 4

def name : Severity → String
  | .none => "NONE"
  | .low => "LOW"
  | .medium => "MEDIUM"
  | .high => "HIGH"
  | .critical => "CRITICAL"

def ofName? : String → Option Severity
  | "NONE" => some .none
  | "LOW" => some .low
  | "MEDIUM" | "MODERATE" => some .medium
  | "HIGH" | "IMPORTANT" => some .high
  | "CRITICAL" => some .critical
  | _ => Option.none

def read? (word : String) : Option Severity := ofName? (Text.upper word)

end Severity

structure Selection where
  frameworks : List String := ["all"]
  checks : List String := []
  skipChecks : List String := []
  runFrom : Option Severity := none
  skipUpTo : Option Severity := none
  includeUnlisted : Bool := true
  allExternal : Bool := false
  policyIds : List String := []
  external : List String := []
  excludedPaths : List String := []
  varFiles : List String := []
  skipPackages : List String := []
  deriving Inhabited

structure CheckLabel where
  id : String
  platformId : Option String := none
  severity : Option Severity := none
  deriving Inhabited

namespace Selection

def commaList : List String → List String
  | [s] => Text.split s ","
  | xs => xs

def listOf : Value → Result Value
  | .null => .ok (.list [])
  | .str s => .ok (.ofStrings (Text.split s ","))
  | .list [x] => do return .ofStrings (Text.split (← x.asText) ",")
  | v => .ok v

def further (beyond : Nat → Nat → Bool) (found : Option Severity) (word : String) : Option Severity :=
  match Severity.read? word, found with
  | some s,some t => if beyond s.level t.level then some s else some t
  | some s,none => some s
  | none,found => found

def furthest (beyond : Nat → Nat → Bool) (words : List String) : Option Severity := words.foldl (further beyond) none

def lowest : List String → Option Severity := furthest (· < ·)

def highest : List String → Option Severity := furthest (· > ·)

def plainWords (words : List String) : List String := words.filter fun w => (Severity.read? w).isNone

variable (sel : Selection) (c : CheckLabel)

def withWords (run skip : List String) : Selection :=
  { sel with
    checks := plainWords run
    skipChecks := plainWords skip
    runFrom := lowest run
    skipUpTo := highest skip }

def frameworksWithout (frameworks known skipped : List String) : List String :=
  let named := if frameworks.isEmpty then ["all"] else frameworks
  if skipped.isEmpty then named
  else ((if named.contains "all" then known else named).filter (!skipped.contains ·)).eraseDups

def named (patterns : List String) (fits : String → String → Bool := Text.globMatches) : Bool :=
  patterns.any fun w => fits c.id w || c.platformId.any fun p => !p.isEmpty && fits p w

def isExternal (id : String) : Bool := sel.external.contains id

def reaches (severity threshold : Option Severity) : Bool :=
  match severity, threshold with
  | some s,some t => s.level ≥ t.level
  | _,_ => false

def staysUnder (severity threshold : Option Severity) : Bool :=
  match severity, threshold with
  | some s,some t => s.level ≤ t.level
  | _,_ => false

def asksFor : Bool :=
  reaches c.severity sel.runFrom || named c sel.checks ||
    (sel.checks.isEmpty && sel.runFrom.isNone) ||
    (sel.isExternal c.id && sel.allExternal)

def skips : Bool :=
  staysUnder c.severity sel.skipUpTo || named c sel.skipChecks ||
    ((c.platformId.getD "").isEmpty && !sel.includeUnlisted && !sel.isExternal c.id && !named c sel.checks)

def runs : Bool := sel.asksFor c && (sel.policyIds.isEmpty || sel.policyIds.contains c.id) && !sel.skips c

def runsId (id : String) : Bool := sel.runs {id}

def within (s : Severity) : Bool :=
  (match sel.runFrom with
    | some t => t.level ≤ s.level
    | none => true) &&
  !(match sel.skipUpTo with
    | some t => t.level ≥ s.level
    | none => false)

end Selection

end InfraAudit
