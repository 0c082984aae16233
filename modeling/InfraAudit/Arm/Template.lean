import InfraAudit.CodeLines
import InfraAudit.Template.YamlReader
import InfraAudit.Workspace
import InfraAudit.Value.PathGlob

namespace InfraAudit.Arm

structure DeploymentTemplate where
  path : String
  lines : List CodeLine
  root : Value
  deriving Inhabited

def DeploymentTemplate.read? (path text : String) : Option DeploymentTemplate :=
  let text := Text.unifyLineEnds text
  if !(Text.contains text "$schema" && Text.contains text "contentVersion") then none
  else match Template.readYaml text with
    | .ok (.dict fields span) =>
      let root := (Template.Node.dict fields span).value
      if root.hasKey "$schema" && root.hasKey "resources" then some {path, lines := CodeLine.ofText text, root}
      else none
    | _ => none

def DeploymentTemplate.ofFiles (ws : Workspace) (paths : List String) : List DeploymentTemplate :=
  paths.eraseDups.filterMap fun p => (ws.file? p).bind fun f => read? p f.text

open Value (Trail isContainer valueAt replaceAt)

variable (word : String)

/-- Goes through trails. One to a collection gives up its position; one that ends with a text that
mentions the word loses its end. -/
def settleFrom : Nat → Nat → List Trail → Result (List Trail)
  | 0,_,trails => .ok trails
  | fuel+1,i,trails =>
    match trails[i]? with
    | none => .ok trails
    | some trail => do
      let some last := trail.getLast? | throw .outOfRange
      let mentioned ← last.has word
      if trail.any isContainer then settleFrom fuel (i+1) (trails.erase trail)
      else settleFrom fuel (i+1) (if mentioned then trails.set i trail.dropLast else trails)

def settle (trails : List Trail) : Result (List Trail) := settleFrom word trails.length 0 trails

mutual

def searchValues (path : Trail) : Value → Result (List Trail)
  | .dict fs => do settle word (← searchFields path fs)
  | .list xs => do settle word (← searchItems path 0 xs)
  | _ => .ok []

def searchFields (path : Trail) : Fields → Result (List Trail)
  | [] => .ok []
  | (k,v)::r => do
    let place := path ++ [.str k]
    let here := if Text.contains v.display word then [place ++ [v]] else []
    let inside ← match v with
      | .dict fs => do settle word (← searchFields place fs)
      | .list xs => searchItems place 0 xs
      | _ => pure []
    return here ++ inside ++ (← searchFields path r)

def searchItems (path : Trail) : Nat → List Value → Result (List Trail)
  | _,[] => .ok []
  | i,x :: xs => do
    let inside ← searchValues (path ++ [.int i]) x
    return inside ++ (← searchItems path (i+1) xs)

end

structure Definition where
  name : String
  value : Value
  place : Trail

/-- A template during replacement. A collection that was put somewhere stays one with its origin, so
the places are kept. -/
structure Replaced where
  root : Value
  shared : List (Trail × Trail) := []

structure ReferenceForm where
  word : String
  wrapping : Text.Pattern

def parameterForm : ReferenceForm := {word := "[parameters(", wrapping := Text.Pattern.of "\\[parameters\\('|'\\)]"}

def variableForm : ReferenceForm := {word := "[variables(", wrapping := Text.Pattern.of "\\[variables\\('|'\\)]"}

/-- The value in place of a reference; the first level of a template stays. -/
def Replaced.put (r : Replaced) (place : Trail) (d : Definition) : Replaced :=
  if place.length ≤ 1 then r
  else if isContainer d.value then
    match valueAt r.root d.place with
    | .ok v => {root := replaceAt v place r.root, shared := r.shared ++ [(place,d.place)]}
    | .error _ => r
  else {r with root := replaceAt d.value place r.root}

def Replaced.replace (form : ReferenceForm) (ds : List Definition) (r : Replaced) (place : Trail) : Result Replaced :=
  match valueAt r.root place with
  | .error .wrongKind => .ok r
  | .error e => .error e
  | .ok v => match v.text? with
    | none => .ok r
    | some s =>
      let name := form.wrapping.replace s ""
      match ds.find? (·.name == name) with
      | some d => .ok (r.put place d)
      | none => .ok r

def Replaced.settled (r : Replaced) : Value :=
  r.shared.foldl (fun root _ => r.shared.foldl (fun root (place,origin) =>
    match valueAt root origin with
    | .ok v => replaceAt v place root
    | .error _ => root) root) r.root

def lineKeys : List Value := ["__startline__","__endline__"]

variable (root : Value)

def sectionOf (title : String) : Result Entries := do
  let some s := root.get? title | return []
  do
  let names := (← s.elems).filter fun n => !n.elem lineKeys
  names.mapM fun n => do return (n,← s.item n)

def parameterDefaults : Result (List Definition) := do
  (← sectionOf root "parameters").filterMapM fun (n,v) => do
    if ← v.partHas "defaultValue" then return some ⟨n.display,v.getD "defaultValue",["parameters",n,"defaultValue"]⟩
    return none

def variableValues : Result (List Definition) := do
  return (← sectionOf root "variables").map fun (n,v) => ⟨n.display,v,["variables",n]⟩

def withDefaults : Result Value := do
  let parameters ← parameterDefaults root
  let named ← variableValues root
  let parameterPlaces ← searchValues parameterForm.word [] root
  let variablePlaces ← searchValues variableForm.word [] root
  let r ← parameterPlaces.foldlM (·.replace parameterForm parameters ·) {root : Replaced}
  let r ← variablePlaces.foldlM (·.replace variableForm named ·) r
  return r.settled

end InfraAudit.Arm
