import InfraAudit.Value.Access
import InfraAudit.Text.Pattern.Reader

namespace InfraAudit.Aws

open Text.Pattern Fields

def statementKeys : List (String × String) :=
  [("actions","Action"),("resources","Resource"),("not_actions","NotAction"),("not_resources","NotResource"),
    ("effect","Effect")]

variable (statement : Value)

def statementOf : Result Value := do
  let statement ← statementKeys.foldlM (fun (s : Value) (key,name) => do
    if !(← s.has key) then return s
    if !s.isDict then throw .noMember
    return .dict (insert name (← s.firstOf key) (erase key s.fields))) statement
  if !(← statement.has "effect") && !(← statement.has "Effect") then
    if !statement.isDict then throw .wrongKind
    return statement.set! "Effect" "Allow"
  return statement

def documentOf (conf : Value) : Result Value := do
  if !(← conf.keysOf).contains "statement" then return conf
  let statements ← (← (← conf.field "statement").elems).mapM statementOf
  return .dict (insert "Statement" (.list statements) (erase "statement" conf.fields))

/-- A statement is a mapping whose actions come first in a collection. -/
def checkStatement : Result Unit := do
  let .dict fs := statement | throw (if statement.isText then .badValue else .wrongKind)
  for key in ["Action","NotAction"] do
    if let some v := get? fs key then let _ ← v.first
  for key in ["Resource","NotResource"] do
    if let some (.list xs) := get? fs key then
      if xs.isEmpty then throw .outOfRange

def checkedDocument (conf : Value) : Result Value := do
  if (← conf.keysOf).contains "Statement" then
    for s in ← (← conf.field "Statement").elems do checkStatement s
  return conf

structure Principal where
  service : String := ""
  account : String := ""
  isService : Bool := false

namespace Principal

def arnPattern : Text.Pattern := of "^arn:([^:]*):([^:]*):([^:]*):(|\\*|[\\d]\x7b12\x7d|cloudfront|aws):(.+)$"

def accountPattern := of "^(\\d\x7b12\x7d)+$"

def servicePattern := of "^(([^.]+)(.[^.]+)?)\\.amazon(aws)?\\.com(.cn)?$"

def internalPattern := of "^([^.]+).aws.internal$"

def read? (s : String) : Option Principal :=
  match arnPattern.search? s with
  | some m => some {service := (m.group? 2).getD "", account := (m.group? 4).getD ""}
  | none =>
    if accountPattern.occursIn s then some {account := s}
    else match servicePattern.search? s <|> internalPattern.search? s with
      | some m => some {service := (m.group? 1).getD "", isService := true}
      | none => none

/-- Whether principals of any account are meant. A name that cannot be read counts if it has a
wildcard. -/
def isOpen (v : Value) : Result Bool := do
  if v == "*" then return true
  let s ← v.needText
  let some p := read? s | return Text.contains s "*"
  if p.service == "s3" then return false
  if p.account.isEmpty && !p.isService then return true
  return p.account == "*"

end Principal

inductive ConditionKind where
  | arn
  | cidr
  | userId
  | other
  deriving DecidableEq

def conditionKinds : List (String × ConditionKind) :=
  [("aws:sourcearn",.arn),("aws:sourceowner",.other),("aws:sourceaccount",.other),
    ("aws:principalorgid",.other),("kms:calleraccount",.other),("aws:userid",.userId),
    ("aws:sourceip",.cidr),("aws:sourcevpc",.other),("aws:sourcevpce",.other)]

def narrowingOperators : List Text.Pattern :=
  [of "(?i)((ForAllValues|ForAnyValue):)?ARN(Equals|Like)(IfExists)?",
    of "(?i)((ForAllValues|ForAnyValue):)?String(Equals|Like)(IgnoreCase)?(IfExists)?",
    of "(?i)((ForAllValues|ForAnyValue):)?IpAddress(IfExists)?"]

def conditionEntries : Result (List (ConditionKind × Value)) := do
  let condition ← statement.get "Condition"
  if condition.falsy then return []
  let entries ← (← condition.pairs).mapM fun (op,block) => do
    let op ← op.needText
    if !narrowingOperators.any (·.matches? op) then return []
    let rows ← (← block.pairs).mapM fun (key,v) => do
      if !v.isList && Text.startsWith (Text.lower op) "for" then return []
      match conditionKinds.lookup (← key.lowered) with
      | some kind => return v.listed.items.map (kind,·)
      | none => return []
    return rows.flatten
  return entries.flatten

def entryIsOpen (kind : ConditionKind) (v : Value) : Result Bool :=
  match kind with
  | .arn => Principal.isOpen v
  | .cidr => v.endsWith "/0"
  | .userId => do
    let s ← v.asText
    return (match Text.find? s "*" with
      | some i => i+1 != s.length
      | none => !s.isEmpty)
  | .other => v.has "*"

def principalsOf : Result (List Value) := do
  let principal ← statement.get "Principal"
  if principal.falsy then return []
  let found := if principal.isDict then
      ["AWS","Federated","Service"].flatMap fun k => ((principal.get? k).map (·.listed.items)).getD []
    else principal.listed.items
  if found.all (·.hashable) then return found
  throw .wrongKind

structure PolicyStatement where
  effect : Value
  principals : List Value
  anyoneBut : Bool
  conditions : List (ConditionKind × Value)

def PolicyStatement.read (statement : Value) : Result PolicyStatement := do
  let conditions ← conditionEntries statement
  let principals ← principalsOf statement
  let actions ← statement.get "Action"
  if actions.truthy && !actions.listed.items.all (·.hashable) then throw .wrongKind
  return {effect := ← statement.get "Effect", principals, anyoneBut := ← statement.has "NotPrincipal", conditions}

def PolicyStatement.isOpen (s : PolicyStatement) : Result Bool := do
  if s.effect != "Allow" then return false
  if !(← s.conditions.allM fun (k,v) => entryIsOpen k v) then return false
  if s.anyoneBut then return true
  s.principals.anyM Principal.isOpen

def policyIsOpen (policy : Value) : Result Bool := do
  let statements ← policy.getOr "Statement" (.list [])
  (← statements.listed.items.mapM PolicyStatement.read).anyM (·.isOpen)

end InfraAudit.Aws
