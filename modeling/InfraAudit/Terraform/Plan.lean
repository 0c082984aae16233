import InfraAudit.Template.YamlReader
import InfraAudit.Terraform.Project

namespace InfraAudit.Terraform.Plan

open Fields Value

def isSimple : Value → Bool
  | .null | .bool _ | .int _ | .float _ | .str _ => true
  | _ => false

def isSimpleList : Value → Bool
  | .list xs => xs.all isSimple
  | _ => false

def isBlockList : Value → Bool
  | .list xs => xs.any isDict
  | _ => false

def cleanItem : Value → Value
  | .str s => if Text.lower s == "true" then .bool true else if Text.lower s == "false" then .bool false else .str s
  | v => v

def firstLine : String := "start_line"

def lastLine : String := "end_line"

def withLines (v : Value) : Value :=
  match v.get? Template.startLine, v.get? Template.stopLine with
  | some (.int a),some (.int b) => (v.set! firstLine (.int (a - 1))).set! lastLine (.int (b - 1))
  | _,_ => v

def notDict : Fault := .failure "this method receives only dicts"

def firstReference (expression : Value) : Result Value := do
  let refs ← (← expression.partOr "references" (.list [])).elems
  for r in refs do
    if !(← r.startsWith "var.") && !(← r.startsWith "local.") then return r
  return .null

/-- An attribute without a value gets its reference, or else the references of the last expression
that has some. -/
def addReferences (known : Value) (conf : Value) (block : Fields) : Result Fields := do
  if conf.falsy || !conf.isDict then return block
  let missing := conf.fields.filter fun (k,_) => !known.hasKey k
  let found ← missing.filterMapM fun (k,e) => do
    let r ← firstReference e
    return if r.truthy then some (k,list [r]) else none
  if !found.isEmpty then return update block found
  return conf.fields.foldl (fun acc (_,e) =>
    if e.isDict then match e.get? "references" with
      | some r => insert "references_" r acc
      | none => acc
    else acc) block

def settings : Nat → Value → Value → Option String → Result Fields
  | 0,_,_,_ => .error .tooDeep
  | n+1,obj,conf,parent => do
    if !obj.isDict then throw notDict
    let obj := withLines obj
    let inTags := parent == some "tags"
    let block ← obj.fields.foldlM (fun (acc : Fields) (key,value) => do
      let acc := if isSimple value || isSimpleList value then
          insert key (if inTags then value else .list [cleanItem value]) acc
        else acc
      let acc ← if isBlockList value then do
          let confs ← if conf.truthy then (do (← conf.partOr key (.list [])).elems) else pure []
          let children ← (value.items.zipIdx).filterMapM fun (v,i) => do
            if v.isDict then return some (dict (← settings n v (confs.getD i .null) (some key)))
            return none
          pure (insert key (if key == "tags" then .list [.list children] else .list children) acc)
        else pure acc
      if value.isDict then
        let child := dict (← settings n value .null (some key))
        return insert key (if inTags then child else .list [child]) acc
      return acc) []
    addReferences obj conf block

def addressKey : String := "__address__"

def actionsKey : String := "__change_actions__"

def changedSettings (address : Value) (changes : Entries) (own : Fields) : Result Fields := do
  if !address.hashable then throw .wrongKind
  let own := insert addressKey address own
  let change := (findEntry (eq address) changes).getD .null
  if change.falsy then return own
  let actions ← (← change.partOr "change" (.dict [])).partOr "actions" .null
  return insert actionsKey (if actions.truthy then actions else .list []) own

def resourceSettings (resource conf : Value) (changes : Entries) : Result Fields := do
  let expressions ← if conf.truthy then conf.partOr "expressions" .null else pure .null
  let values ← resource.field "values"
  let own ← settings (values.nesting+1) values expressions none
  changedSettings (← resource.get "address") changes own

def isPlanned (resource : Value) : Result Bool := do
  let mode ← if ← resource.has "mode" then resource.get "mode" else pure ""
  return mode == "managed" && (← resource.has "values")

def resourceBlock (resource conf : Value) (changes : Entries) : Result (Option Value) := do
  let type ← resource.field "type"
  if !type.hashable then throw .wrongKind
  if !(← isPlanned resource) then return none
  let own ← resourceSettings resource conf changes
  let name ← resource.getOr "name" "default"
  return some (.dict [(← type.needText,.dict [(← name.needText,.dict own)])])

def childBlocks (changes : Entries) : Nat → Value → Result (List Value)
  | 0,_ => .error .tooDeep
  | n+1,modules => do
    let blocks ← (← modules.elems).mapM fun m => do
      let inner ← m.partOr "child_modules" (.list [])
      let nested ← if inner.truthy then childBlocks changes n inner else pure []
      let own ← (← (← m.partOr "resources" (.list [])).elems).filterMapM fun r => resourceBlock r .null changes
      return nested ++ own
    return blocks.flatten

variable (plan : Value)

def changesOf : Result Entries := do
  match ← plan.get "resource_changes" with
  | .list cs => cs.foldlM (fun acc c => do
      let address ← c.partOr "address" ""
      if !address.hashable then throw .wrongKind
      return insertEntry address c acc) []
  | _ => return []

def rootModule (part : String) : Result Value := do
  (← plan.partOr part (.dict [])).partOr "root_module" (.dict [])

def configurationOf (plan resource : Value) : Result Value := do
  for c in (← (← (← rootModule plan "configuration").partOr "resources" (.list [])).elems) do
    if (← c.field "type") == (← resource.field "type") then
      if (← c.field "name") == (← resource.field "name") then return c
  return .null

def blocks : Result (List Value) := do
  let changes ← changesOf plan
  let planned ← rootModule plan "planned_values"
  let own ← (← (← planned.partOr "resources" (.list [])).elems).filterMapM fun r => do
    resourceBlock r (← configurationOf plan r) changes
  let children ← (← rootModule plan "planned_values").partOr "child_modules" (.list [])
  return own ++ (← childBlocks changes (plan.nesting+1) children)

def read (text : String) : Result (Option Value) := do
  if !Text.contains text "planned_values" then return none
  match ← Template.readYaml text with
  | .dict fs span =>
    let v := (Template.Node.dict fs span).value
    return if v.hasKey "terraform_version" && v.hasKey "planned_values" then some v else none
  | _ => return none

end InfraAudit.Terraform.Plan
