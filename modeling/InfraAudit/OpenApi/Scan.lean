import InfraAudit.Document.Lined

namespace InfraAudit.OpenApi

open Value

open Document (Placed Rule Application)

/-- In a JSON document collections have a fault of their own for a missing member. -/
def ask {α : Type} (json : Bool) (v : Value) (r : Result α) : Result α :=
  match r with
  | .error .noMember => .error (if json && v.isContainer then .noTemplateMember else .noMember)
  | r => r

def pairs (json : Bool) (v : Value) : Result Entries := do
  return (← ask json v v.pairs).filter fun (k,_) => !Application.isLineKey k

abbrev Judgement := Result (Verdict × Trail)

def document : Trail := []

def orEmpty (v : Value) : Value := if v.truthy then v else .dict []

def forVersion (key : String) (is : String → Bool) (rule : Value → Judgement) (conf : Value) : Judgement :=
  match conf.getD key with
  | .str s => if is s then rule conf else .ok (.unknown,document)
  | _ => .ok (.unknown,document)

variable (json : Bool) (conf : Value) (ws : Workspace)

def scopesOnlyForOauth2 : Judgement := do
  let security := conf.getD "security"
  let security : Value := if security.truthy then security else .list [.dict []]
  let others ← (← pairs json (orEmpty (conf.getD "securityDefinitions"))).filterMapM fun (name,scheme) => do
    let type ← ask json scheme (scheme.get "type")
    return if (← ask json type type.lowered) == "oauth2" then none else some name
  for requirement in ← security.elems do
    if !requirement.isDict then return (.unknown,document)
    for (name,scopes) in ← pairs json requirement do
      if others.any (· == name) && scopes.truthy then return (.failed,["security"])
  return (.passed,document)

def definitionsGiven : Judgement := do
  let key := "securityDefinitions"
  let some given := conf.get? key | return (.failed,document)
  let tooFew ← if given.falsy then pure true else if json && given.isDict then pure false
    else given.size.map fun n => decide (n ≤ 2)
  return (.passIf !tooFew,[.str key])

def allDefined (required given : Value) : Result Bool := do
  for requirement in ← required.elems do
    if !requirement.isDict then return false
    for (scheme,_) in requirement.entries do
      if !(← given.holds scheme) then return false
  return true

def requirementsDefined (part given : Value) : Result Bool := do
  let some required ← part.reach? ["security"] | return true
  if required.falsy then return true
  allDefined required given

def requirementsMet : Judgement := do
  let some given := conf.get? "securityDefinitions" | return (.failed,document)
  if !(← requirementsDefined conf given) then return (.failed,["security"])
  let paths := conf.getD "paths"
  if !paths.isDict then return (.failed,document)
  for (path,operations) in ← pairs json paths do
    for (name,operation) in ← pairs json operations do
      if !(← requirementsDefined operation given) then return (.failed,["paths",path,name,"security"])
  return (.passed,document)

def schemes : Result (Trail × Value) := do
  let components := orEmpty (conf.getD "components")
  let found := orEmpty (← ask json components (components.get "securitySchemes"))
  let trail : Trail := ["components","securitySchemes"]
  match found with
  | .list xs => return (trail ++ [.int 0],← Value.nth xs 0)
  | v => return (trail,v)

def noCleartext : Judgement := do
  let (trail,found) ← schemes json conf
  let paths := orEmpty (conf.getD "paths")
  for (name,scheme) in ← pairs json found do
    if scheme.isDict && (scheme.getD "type" == "http" || scheme.getD "scheme" == "basic") then
      return (.failed,trail ++ [name])
  if !paths.isDict then return (.passed,trail)
  for (_,path) in ← pairs json paths do
    if path.falsy then continue
    for operation in ← path.elems do
      if operation.isDict && (operation.getD "security").truthy then return (.failed,trail)
  return (.passed,document)

def globalSecurity : Judgement :=
  .ok (if (conf.getD "security").truthy then (.passed,["security"]) else (.failed,document))

def operationsSecured : Judgement := do
  let paths := conf.getD "paths"
  for (path,operations) in paths.entries do
    if Application.isLineKey path then continue
    for (name,operation) in operations.entries do
      if Application.isLineKey name || !operation.isDict then continue
      let some security := operation.get? "security" | return (.failed,document)
      if security.falsy then return (.failed,["paths"])
  return (.passed,document)

def rules (json : Bool) : List (Rule Trail) :=
  let version2 := forVersion "swagger" (· == "2.0")
  let version3 := forVersion "openapi" (Text.startsWith · "3.")
  [⟨"CKV_OPENAPI_2","Ensure that if the security scheme is not of type 'oauth2', the array value must be empty - version 2.0 files",
      ["security"],.whole,version2 (scopesOnlyForOauth2 json)⟩,
    ⟨"CKV_OPENAPI_1","Ensure that securityDefinitions is defined and not empty - version 2.0 files",
      ["securityDefinitions"],.whole,version2 (definitionsGiven json)⟩,
    ⟨"CKV_OPENAPI_6","Ensure that security requirement defined in securityDefinitions - version 2.0 files",
      ["security"],.whole,version2 (requirementsMet json)⟩,
    ⟨"CKV_OPENAPI_3","Ensure that security schemes don't allow cleartext credentials over unencrypted channel - version 3.x.y files",
      ["components"],.whole,version3 (noCleartext json)⟩,
    ⟨"CKV_OPENAPI_4","Ensure that the global security field has rules defined",["security"],.whole,globalSecurity⟩,
    ⟨"CKV_OPENAPI_5","Ensure that security operations is not empty.",["security"],.whole,operationsSecured⟩]

open Document (Lined Placed Rule Outcome)

def describes (v : Value) : Bool :=
  v.truthy && v.isDict && (v.hasKey "swagger" || v.hasKey "openapi") && (v.getD "info").isDict

def read (path : String) : Result (Option Placed) := do
  let file ← ws.need path
  let found ← if Text.endsWith path ".json" then Placed.ofJson path file.text
    else (Lined.ofText path file.text).map (·.map Placed.ofLined)
  return found.filter fun d => describes d.root

def lines (d : Placed) (t : Trail) : Result LineRange :=
  let v := d.valueAt t
  if v.falsy then .ok ⟨0,0⟩
  else match d.tree, v with
    | some n,.dict _ => .ok (((Document.partAt? n t).bind Document.mappingLines?).getD ⟨0,0⟩)
    | some _,.list _ => .ok ⟨0,0⟩
    | _,v => do
      if (← v.has Document.startLine) || v.isList then Lined.range v
      else throw (.failure "Unexpected dictionary format.")

def scheme : Document.Scheme where
  key _ name id _ := .ok (name ++ "." ++ id)
  select entity document := document.getD entity

def judge (sel : Selection) (rep : Report) (d : Placed) : Result Report := do
  let outcomes ← Rule.runAll (rules d.isJson) scheme (fun r => .ok (d.suppression r)) (sel.runsId ·.id) d.path d.root
  outcomes.foldlM (fun rep (_,o) => do
    let lines ← match o.place with
      | some t => lines d t
      | none => pure ⟨0,0⟩
    return rep.add (← o.record ws d.path d.lines lines (.ok (Text.join "," o.rule.entities)))) rep

def scanFiles (sel : Selection) (files : List String) : Result Report := do
  let found ← files.mapM (read ws)
  (found.filterMap id).foldlM (judge ws sel) {framework := "openapi"}

def scanDirectory (sel : Selection) : Result Report := do
  scanFiles ws sel (← ws.sources [] sel.excludedPaths)

end InfraAudit.OpenApi
