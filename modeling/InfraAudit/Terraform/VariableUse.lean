import InfraAudit.Workspace
import InfraAudit.Value.Access

namespace InfraAudit.Terraform

open Text

structure VarBlock where
  full : String
  inner : String
  deriving DecidableEq, Repr, Inhabited

inductive Mode where
  | eval | map | single | double | params | array
  deriving DecidableEq, Repr

def Mode.isQuote : Option Mode → Bool
  | some .single | some .double => true
  | _ => false

/-- The starts of the open interpolations and the places of the open parentheses have stacks of their own. -/
structure ScanState where
  modes : List Mode := []
  evals : List Nat := []
  params : List Nat := []
  afterDollar : Bool := false
  escaped : Bool := false
  argStart : Option Nat := none
  found : List VarBlock := []

def pop {α : Type} : List α → Result (α × List α)
  | [] => .error .outOfRange
  | a::as => .ok (a,as)

variable (cs : Array Char)

def charAt (i : Nat) : Result Char := (cs[i]?).elim (.error .outOfRange) .ok

def subText (a b : Nat) : String := String.ofList (cs.extract a b).toList

def dottedName := Pattern.of "[a-zA-Z_]+(\\.[a-zA-Z_]+)+"

def isFunctionNameChar (c : Char) : Bool := c.isAlphanum

def nameStart (cs : Array Char) : Nat → Result Nat
  | 0 => .ok 0
  | 1 => .ok 1
  | i+2 => do if isFunctionNameChar (← charAt cs (i+1)) then nameStart cs (i+1) else return i+2

def argumentBlock (start? : Option Nat) (stop : Nat) : List VarBlock :=
  let arg := strip (subText cs (start?.getD 0) stop)
  if start?.isSome && dottedName.matches? arg then [⟨arg,arg⟩] else []

/-- None if the call is all that an interpolation holds up to there. -/
def callBlock (opening i : Nat) : Result (List VarBlock) := do
  let start ← nameStart cs opening
  if 2 ≤ start then
    if (← charAt cs (start - 2)) == '$' then
      if (← charAt cs (start - 1)) == '\x7b' then return []
  let call := subText cs start (i+1)
  return if start < opening then [⟨call,call⟩] else []

def plainConditions := ["true","false","\"true\"","\"false\"","true\"","false\""]

def scanChar (st : ScanState) (i : Nat) (c : Char) : Result ScanState :=
  let mode := st.modes.head?
  if c == '$' then .ok {st with afterDollar := !st.afterDollar}
  else if c == '\x7b' && st.afterDollar then
    .ok {st with modes := .eval :: st.modes, evals := (i+1) :: st.evals, afterDollar := false}
  else if c == '\\' && Mode.isQuote mode then .ok {st with escaped := true}
  else
    let st := {st with afterDollar := false}
    let plain := {st with escaped := false}
    match c, mode with
    | '\x7d',some .eval => do
      let (_,modes) ← pop st.modes
      let (start,evals) ← pop st.evals
      let inner := subText cs start i
      return {plain with modes, evals, found := ⟨"$\x7b" ++ inner ++ "\x7d",inner⟩ :: st.found}
    | '\x7d',some .map | ']',some .array => closed plain
    | ')',some .params => do
      let (_,modes) ← pop st.modes
      let (opening,params) ← pop st.params
      let found := (← callBlock cs opening i) ++ (argumentBlock cs st.argStart i ++ st.found)
      return {plain with modes, params, argStart := none, found}
    | '"',_ => quoteChar st plain .double
    | '\'',_ => quoteChar st plain .single
    | '\x7b',_ => opened plain .map
    | '[',_ => opened plain .array
    | '(',_ =>
      if Mode.isQuote mode then .ok plain
      else .ok {plain with modes := .params :: st.modes, params := i :: st.params, argStart := some (i+1)}
    | ',',some .params =>
      .ok { plain with
        argStart := st.argStart.map fun _ => i+1
        found := argumentBlock cs st.argStart i ++ st.found }
    | '?',some .eval => do
      let (start,_) ← pop st.evals
      let inner := strip (subText cs start i)
      if plainConditions.contains inner then return plain
      return {plain with found := ⟨inner,inner⟩ :: st.found}
    | _,_ => .ok plain
where
  opened (st : ScanState) (m : Mode) : Result ScanState :=
    .ok (if Mode.isQuote st.modes.head? then st else {st with modes := m :: st.modes})
  closed (st : ScanState) : Result ScanState := do
    let (_,modes) ← pop st.modes
    return {st with modes}
  quoteChar (st plain : ScanState) (q : Mode) : Result ScanState :=
    if st.escaped then .ok {st with escaped := false}
    else if st.modes.head? == some q then closed plain
    else .ok {plain with modes := q :: st.modes}

def scanFrom (cs : Array Char) : ScanState → Nat → List Char → Result ScanState
  | st,_,[] => .ok st
  | st,i,c::r => do scanFrom cs (← scanChar cs st i c) (i+1) r

def scanBlocks (s : String) : Result (List VarBlock) := do
  let cs := s.toList
  return (← scanFrom cs.toArray {} 0 cs).found.reverse

def varBlocks (s : String) : List VarBlock :=
  match scanBlocks s with
  | .ok bs => bs
  | .error _ => []

structure ArgState where
  nesting : List Char := []
  escaped : Bool := false

def closingMark? : Char → Option Char
  | '"' => some '"'
  | '\'' => some '\''
  | '\x7b' => some '\x7d'
  | '[' => some ']'
  | '(' => some ')'
  | _ => none

def ArgState.step (st : ArgState) (c : Char) : ArgState :=
  let opened : ArgState := match closingMark? c with
    | some d => {st with nesting := d :: st.nesting}
    | none => st
  match st.nesting with
  | [] => opened
  | t::rest =>
    if t == '"' || t == '\'' then
      if st.escaped then {st with escaped := false}
      else if c == '\\' then {st with escaped := true}
      else if c == t then {st with nesting := rest}
      else st
    else if c == t then {st with nesting := rest}
    else opened

def argumentPieces : ArgState → List Char → List Char → List String
  | _,acc,[] => keep acc []
  | st,acc,c :: r =>
    if c == ',' && st.nesting.isEmpty then keep acc (argumentPieces (st.step c) [] r)
    else argumentPieces (st.step c) (c::acc) r
where
  keep (acc : List Char) (rest : List String) : List String :=
    let s := strip (String.ofList acc.reverse)
    if s.isEmpty then rest else s :: rest

def splitArguments (s : String) : Option (List String) :=
  match argumentPieces {} [] s.toList with
  | [] => none
  | args => some args

end InfraAudit.Terraform

namespace InfraAudit

def referenceStarts :=
  ["var.","local.","module.","data.","aws_","azurerm_","azuread_","digitalocean_","google_",
    "github_","kubernetes_","linode_","oci_","openstack_","yandex_"]

def Terraform.isDependent (v : Value) : Bool :=
  match v.text? with
  | none => false
  | some s =>
    referenceStarts.any (Text.startsWith s ·) || (Text.contains s "$\x7b" && !(varBlocks s).isEmpty)

def cloudReference := Text.Pattern.of "(?:Ref)\\.[^\\s]+"

def isTemplateDependent (v : Value) : Bool :=
  match v.text? with
  | none => false
  | some s => cloudReference.matches? s

end InfraAudit

namespace InfraAudit.Terraform

open Text

def isOnly (pattern expression : String) : Result Bool := do
  return (← Pattern.read ("^" ++ pattern ++ "$")).occursIn expression

def placeKey := Pattern.of "\\b(?!\\d)([^\\/]+)"

def contextOf (place : String) : String × String :=
  let path := join "/" ((placeKey.findAll place).map (·.whole))
  (PathName.dirname path,PathName.basename path)

def sameMembers (xs ys : List Value) : Bool := xs.all (Value.elem · ys) && ys.all (Value.elem · xs)

def insertAt (v : Value) : List String → Fields → Fields
  | [],fs => fs
  | [k],fs => Fields.insert k v fs
  | k::ks,fs => Fields.insert k (.dict (insertAt v ks (((Fields.get? fs k).getD (.dict [])).fields))) fs

def usesWithin (evaluations : Value) (entity : List Value) : Result Value := do
  let rows ← (← evaluations.pairs).filterMapM fun (name,evaluation) => do
    let uses ← (← (← evaluation.field "definitions").elems).filterM fun use => do
      let (context,_) := contextOf (← (← use.field "definition_path").needText)
      return sameMembers ((split context "/").map .str) entity
    if uses.isEmpty then return none
    return some (name.display,evaluation.set! "definitions" (.list uses))
  return .dict (rows.foldl (fun fs (name,v) => insertAt v (split (stripLeft (· == '/') name) "/") fs) [])

end InfraAudit.Terraform
