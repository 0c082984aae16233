import InfraAudit.Check
import InfraAudit.CodeLines
import InfraAudit.Workspace
import InfraAudit.Yaml.Scalar

namespace InfraAudit.Kubernetes

open Text CodeLine

structure Manifest where
  path : String
  lines : List CodeLine := []
  objects : List Value := []
  deriving Inhabited

variable (v : Value)

def isObject : Bool := v.truthy && v.isDict && v.hasKey "apiVersion" && v.hasKey "kind"

def isInteger : Value → Bool
  | .int _ | .bool _ => true
  | _ => false

def isInvalid : Bool :=
  !v.isDict || !v.hasKey "apiVersion" || !v.hasKey "kind" || isInteger (v.getD "kind") || !(v.getD "metadata").isDict

def objectId? : Result (Option String) := do
  let kind ← v.field "kind"
  let metadata ← v.get "metadata"
  let metadata : Value := if metadata.truthy then metadata else .dict []
  let space ← metadata.getOr "namespace" "default"
  let name ← metadata.get "name"
  if name.falsy then return none
  return some (kind.display ++ "." ++ space.display ++ "." ++ name.display)

mutual

def weight : Value → Nat
  | .dict fs => 1+weightOfFields fs
  | .list xs => 1+weightOfItems xs
  | _ => 1

def weightOfFields : Fields → Nat
  | [] => 0
  | (_,v)::r => weight v+weightOfFields r

def weightOfItems : List Value → Nat
  | [] => 0
  | v::r => weight v+weightOfItems r

end

/-- Takes out the object at a position, or the first one that equals it. -/
def takeOut (i : Nat) (objects : List Value) : List Value := objects.eraseIdx ((objects.take i).findIdx (· == v))

/-- What looking at an object does to the list it stands in, and what it yields. -/
structure Visit (α : Type) where
  lost : Bool
  added : List Value := []
  found : List α := []

/-- Goes through a list that changes on the way. The object behind one that is lost moves to its position and is not
looked at. -/
def sweep {α : Type} (look : Value → Result (Visit α)) : Nat → Nat → List Value → Result (List α × List Value)
  | 0,_,objects => .ok ([],objects)
  | fuel+1,i,objects =>
    match objects[i]? with
    | none => .ok ([],objects)
    | some v => do
      let visit ← look v
      let objects := objects ++ visit.added
      let (found,kept) ← sweep look fuel (i+1) (if visit.lost then takeOut v i objects else objects)
      return (visit.found ++ found,kept)

/-- Lists give way to their items, which go to the end. -/
def openList : Result (Visit Unit) := do
  if (← v.get "kind") != "List" then return {lost := false}
  return {lost := true, added := (← (← v.getOr "items" (.list [])).elems).filter Value.truthy}

def unfoldLists (objects : List Value) : Result (List Value) := do
  return (← sweep openList (weightOfItems objects+1) 0 objects).2

namespace Manifest

def mentionsObjects (text : String) : Bool := contains text "apiVersion" && contains text "kind"

def bracketed (text : String) : String :=
  replace (replace ("[" ++ text ++ "]") "\x7d\x7b" "\x7d,\x7b") "\x7d\n\x7b" "\x7d,\n\x7b"

variable (path text : String)

def documents : Result (Option (List Value)) := do
  if endsWith path ".yaml" || endsWith path ".yml" then return some (← Yaml.readLined text)
  if endsWith path ".json" then
    match ← Yaml.readLined (bracketed text) with
    | .list xs :: _ => return some xs
    | _ => return none
  return none

def isTemplate : Bool := !endsWith path ".json" && contains text "\x7b\x7b"

def isNamedLikeOne (path : String) : Bool := [".yaml",".yml",".json"].any (endsWith path ·)

def read? : Option Manifest :=
  let text := unifyLineEnds text
  if !isNamedLikeOne path then none
  else if !mentionsObjects text || isTemplate path text then some {path}
  else match documents path text with
    | .ok (some vs) =>
      if vs.isEmpty then none
      else some {path, lines := ofText text, objects := vs.filter isObject}
    | _ => none

def ofFiles (ws : Workspace) (paths : List String) : List Manifest :=
  paths.eraseDups.filterMap fun p => (ws.file? p).bind fun f => read? p f.text

def isCandidate (path : String) : Bool :=
  [".yaml",".yml",".json"].contains (PathName.extension path) && !contains path "/." &&
    !(["package.json","package-lock.json"].contains (PathName.basename path))

def ofWorkspace (ws : Workspace) (excluded : List String) : Result (List Manifest) := do
  return ofFiles ws ((← ws.sources [] excluded).filter isCandidate)

end Manifest

def namesCheck : Result Bool := do
  if ← v.has "CKV_K8S" then return true
  if ← v.has "BC_K8S" then return true
  v.has "CKV2_K8S"

/-- The id of a check, and the reason behind an equals sign. A value that names no check is a fault.
-/
def suppressionOf : Result (Option Suppression) := do
  if !(← namesCheck v) then throw .wrongKind
  if ← v.has "=" then
    match split (← v.asText) "=" with
    | [id,comment] => return some {id, comment}
    | _ => throw .badValue
  return v.text?.map fun id => {id, comment := "No comment provided"}

def suppressionsIn (note : Value) : Result (List Suppression) :=
  note.fields.filterMapM fun (k,v) => do
    if contains k "checkov.io/skip" || contains k "bridgecrew.io/skip" then suppressionOf v
    else return none

def suppressions (object : Value) : Result (List Suppression × Value) := do
  if !object.isDict then return ([],object)
  let metadata := (object.get? "metadata").getD (.dict [])
  if !(← metadata.keysOf).contains "annotations" then return ([],object)
  let annotations := metadata.getD "annotations"
  if annotations.isNull then return ([],object)
  let found ← (← (if annotations.isDict then annotations.listed else annotations).elems).mapM fun a =>
    if a.isDict then suppressionsIn a else pure []
  let changed := if annotations.isDict then
      object.set! "metadata" (metadata.set! "annotations" annotations.listed)
    else object
  return (found.flatten,changed)

structure ObjectContext where
  lines : LineRange
  code : List CodeLine

namespace Manifest

def lineNumber (object : Value) (key : String) : Result Int := do (← object.field key).needInt

/-- In a file that begins with a brace they are counted from the brace on. -/
def linesOf (m : Manifest) (object : Value) : Result LineRange := do
  let start ← lineNumber object "__startline__"
  let stop := min (← lineNumber object "__endline__") m.lines.length
  if ← startBraced m.lines then return ⟨start+1,stop+1⟩
  busyRange m.lines ⟨start,stop⟩

def context? (m : Manifest) (object : Value) : Result (Option (String × ObjectContext)) := do
  if isInvalid object then return none
  let some id ← objectId? object | return none
  let lines ← m.linesOf object
  let _ ← suppressions object
  return some (id,{lines, code := within m.lines lines})

def contexts (m : Manifest) : Result (List (String × ObjectContext)) := do
  return (← (← unfoldLists m.objects).filterMapM m.context?).reverse

end Manifest

end InfraAudit.Kubernetes
