import InfraAudit.CodeLines
import InfraAudit.Value.PathGlob
import InfraAudit.Workspace
import InfraAudit.Yaml.Scalar
import InfraAudit.Template.JsonReader

namespace InfraAudit.Serverless

open Text

open Value (Trail valueAt replaceAt textPlaces)

structure Origin where
  source : Option String
  place : Option String
  deriving DecidableEq, Repr, Inhabited

structure Variable where
  origin : Origin
  fallback : Origin := ⟨none,none⟩
  deriving DecidableEq, Repr, Inhabited

def quotedPattern := Pattern.of "(?:('|\").*?\\1)"

def unquote (quote : Char) (s : String) : String :=
  if s.toList.head? == some quote && s.toList.getLast? == some quote then slice s (some 1) (some (-1)) else s

def cleaned (s : String) : String := unquote '\'' (unquote '"' (strip s))

/-- They stand in no quotes, and none before the first position. -/
def dividers (s : String) : List Nat :=
  let quoted := (quotedPattern.findAll s).map fun m => (m.start,m.stop)
  let commas := (s.toList.zipIdx.filter fun (c,_) => c == ',').map Prod.snd
  (commas.takeWhile (· != 0)).filter fun i => !quoted.any fun (first,stop) => first ≤ i && i < stop

def pieces (s : String) : Nat → List Nat → List String
  | start,[] => if start < s.length then [drop s start] else []
  | start,i :: is => slice s (some start) (some i) :: pieces s (i+1) is

def divided? (s : String) : Option (List String) :=
  if s.isEmpty then none else some ((pieces s 0 (dividers s)).map cleaned)

def filePattern := Text.Pattern.of "^file\\(([^?%*:|\"<>]+?)\\)"

def originOf (token : String) : Origin :=
  match filePattern.matchStart? token with
  | some m =>
    if contains token ":" then ⟨some (strip m.whole),some (strip (drop token (m.whole.length+1)))⟩
    else ⟨some m.whole,none⟩
  | none => match find? token ":" with
    | some i => ⟨some (strip (take token i)),some (strip (drop token (i+1)))⟩
    | none => ⟨none,some token⟩

def Variable.read? (s : String) : Option Variable :=
  match divided? (strip s) with
  | some (first::rest) => some ⟨originOf first,(rest.head?.map originOf).getD ⟨none,none⟩⟩
  | _ => none

def lookUp (v : Value) (place : String) : Value := (split place ".").foldl (fun v k => v.getD k) v

structure Surroundings where
  ws : Workspace
  directory : String
  home : String := "/root"

variable (s : Surroundings) (root : Value)

def Surroundings.load (file : String) : Value :=
  let path := PathName.join s.directory (replace file "~" s.home)
  match s.ws.file? (PathName.absolute s.ws.root path) with
  | none => .dict []
  | some f =>
    if endsWith path ".json" then (Json.read f.text).toOption.getD (.dict [])
    else if endsWith path ".yml" || endsWith path ".yaml" then
      (Yaml.read (unifyLineEnds f.text)).toOption.getD (.dict [])
    else .null

def Surroundings.valueOf (o : Origin) : Value :=
  let within (v : Value) : Value := (o.place.map (lookUp v)).getD v
  match o.source with
  | none => (o.place.map Value.str).getD .null
  | some "self" => within root
  | some "env" => within (.dict [])
  | some source =>
    match filePattern.matchStart? source with
    | some m => within (s.load ((m.group? 1).getD ""))
    | none => .null

structure Found where
  value : Value
  place : Option (List String) := none

def Surroundings.found (o : Origin) : Found :=
  { value := s.valueOf root o
    place := if o.source == some "self" then some (((o.place.map (split · "."))).getD []) else none }

def Surroundings.resolve (v : Variable) : Found :=
  let first := s.found root v.origin
  if first.value.isNull && v.fallback.place.isSome then s.found root v.fallback else first

/-- Whether a place of the service holds another one, so that its value must not be put there. -/
def holdsPlace (place : List String) (inner : Trail) : Bool :=
  place.length ≤ inner.length && (place.zip inner).all fun (k,x) => x == .str k

/-- A text that is nothing but the variable becomes its value; inside of a text only a text can take
its place. -/
def replaceOne (v : Value) (written : String) (new : Value) : Result Value :=
  if v == .str written then .ok new
  else match v.text? with
    | none => .error v.partFault
    | some s => match new.text? with
      | some t => .ok (.str (replace s written t))
      | none => .ok v

def replaceIn (pattern : Pattern) (root : Value) (place : Trail) (text : String) : Result Value :=
  (pattern.findAll text).foldlM (fun v m => do
    if m.spans.size < 2 then throw .outOfRange
    let some inner := m.group? 1 | throw .noMember
    let some wanted := Variable.read? inner | throw .wrongKind
    let found := s.resolve root wanted
    if found.value.isNull then return v
    if v == .str m.whole && Value.isContainer found.value && (found.place.map (holdsPlace · place)).getD false then
      throw .tooDeep
    replaceOne v m.whole found.value) (.str text)

def replaceOnce (pattern : Pattern) (root : Value) : Result Value :=
  (textPlaces [] root).foldlM (fun root place => do
    match valueAt root place with
    | .ok (.str text) => do
      let v ← replaceIn s pattern root place text
      return if v == .str text then root else replaceAt v place root
    | _ => return root) root

def replaceAll (s : Surroundings) (pattern : Pattern) : Nat → Value → Result Value
  | 0,root => .ok root
  | n+1,root => do
    let root' ← replaceOnce s pattern root
    if root' == root then return root else replaceAll s pattern n root'

def defaultPattern := Pattern.of "\\$\x7b([^\x7b\x7d]+?)\x7d"

/-- A service may choose the form; it is given without the choice. -/
def variablePattern : Result (Pattern × Value) := do
  let provider := root.getD "provider"
  let chosen := provider.getD "variableSyntax"
  if chosen.isNull then return (defaultPattern,root)
  return (← Pattern.read (← chosen.needText),
    root.set! "provider" (.dict (Fields.erase "variableSyntax" provider.fields)))

def withVariables : Result Value := do
  let (pattern,root) ← variablePattern root
  replaceAll s pattern 25 root

end InfraAudit.Serverless
