import InfraAudit.Terraform.ModulePath
import InfraAudit.Terraform.VariableUse
import InfraAudit.Json.Writer
import InfraAudit.Template.JsonReader

namespace InfraAudit.Terraform

open Text PathName

def entityName := Text.Pattern.of "[^\\W0-9][\\w-]*"

variable (v : Value)

def isValidBlock : Result Bool :=
  if !v.isDict then .ok true
  else match v.entries with
    | [] => .ok false
    | (k,_)::_ => do return (entityName.matchFull? (← k.needText)).isSome

def mapBlocks (f : String → List Value → Result (List Value)) (v : Value) : Result Value := do
  let es ← v.pairs
  return .ofEntries (← es.mapM fun (k,blocks) => do return (k,.list (← f ((k.text?).getD "") (← blocks.elems))))

def validDefinitions (raw : Value) : Result Value := mapBlocks (fun _ bs => bs.filterM isValidBlock) raw

def freeBlockTypes := ["locals","terraform"]

def hasOneKey : Bool := !v.isDict || v.entries.length == 1

def singleDefinitions : Result Value :=
  mapBlocks (fun kind bs => .ok (bs.filter fun b => freeBlockTypes.contains kind || hasOneKey b)) v

def textsLast (xs : List Value) : List Value :=
  xs.filter (fun x => !x.isText) ++ sortOn (fun x => x.text?.getD "") (xs.filter Value.isText)

def truthWord : Value → Value
  | "true" => .bool true
  | "false" => .bool false
  | v => v

mutual

def canonical : Value → Value
  | .dict fs => .dict (sortOn Prod.fst (canonicalFields fs))
  | .table es => .table (canonicalEntries es)
  | .list xs | .set xs => .list (textsLast (canonicalItems xs))
  | v => truthWord v

def canonicalItems : List Value → List Value
  | [] => []
  | x::xs => canonical x :: canonicalItems xs

def canonicalFields : Fields → Fields
  | [] => []
  | (k,x)::r => (if k == "alias" then (k,x) else (k,canonical x)) :: canonicalFields r

def canonicalEntries : Entries → Entries
  | [] => []
  | (k,x)::r => (k,canonical x) :: canonicalEntries r

end

def asJson : Result Value := do Json.read (← Json.line v)

/-- Each doubled backslash of the JSON form becomes single, if that can still be read. -/
def singleBackslashes : Result (Option Value) := do
  return (Json.read (replace (← Json.line v) "\\\\" "\\")).toOption

def isTextResolved (s : String) : Bool := !(varBlocks s).any fun b => dottedName.matches? b.inner

mutual

/-- It refers to no variable, local value or module, so it can be passed to a module. -/
def isResolved : Value → Bool
  | .dict fs => areFieldsResolved fs
  | .list xs | .set xs => areResolved xs
  | .str s => isTextResolved s
  | _ => true

def areResolved : List Value → Bool
  | [] => true
  | x::xs => isResolved x && areResolved xs

def areFieldsResolved : Fields → Bool
  | [] => true
  | (k,x)::r => isResolved x && isTextResolved k && areFieldsResolved r

end

structure ModuleCall where
  file : String
  number : Nat
  name : String
  deriving DecidableEq, Repr, Inhabited

structure VariableValue where
  name : String
  value : Value
  file : String
  deriving Inhabited

structure Loading where
  files : Fields := []
  keys : List (String × String) := []
  called : List String := []
  calls : List ModuleCall := []
  numbers : List ((String × String) × String) := []
  sources : List ((String × Value) × String) := []
  values : List VariableValue := []
  errors : List String := []
  deriving Inhabited

abbrev Loader := ExceptT Fault (StateM Loading)

namespace Loader

def lift {α : Type} (r : Result α) : Loader α :=
  match r with
  | .ok a => pure a
  | .error e => throw e

def insertPair {α β : Type} [BEq α] (k : α) (v : β) : List (α × β) → List (α × β)
  | [] => [(k,v)]
  | (k',v')::r => if k' == k then (k,v) :: r else (k',v') :: insertPair k v r

def withoutMark (s : String) : String := dropPrefix s "\ufeff"

variable (ws : Workspace)

def readFile (path : String) (single : Bool) : Result Value :=
  match ws.file? path with
  | none => .error .fileNotFound
  | some f =>
    if endsWith (basename path) ".json" then Json.read (withoutMark f.text)
    else match f.tree with
      | none => .error .unreadableExpression
      | some t => do
        let v ← validDefinitions t
        if single then singleDefinitions v else return v

def tryReadFile (path : String) (single : Bool) : Loader Value := do
  match readFile ws path single with
  | .ok v => return v
  | .error _ =>
    modify fun s => {s with errors := if s.errors.contains path then s.errors else s.errors ++ [path]}
    return .null

def readFiles (paths : List String) : Loader Fields := do
  let known := (← get).files
  let read ← paths.mapM fun p => do
    match (known.lookup p).filter Value.truthy with
    | some v => return (p,v)
    | none =>
      let v ← tryReadFile ws p true
      modify fun s => {s with files := if (s.files.lookup p).isSome then s.files else s.files ++ [(p,v)]}
      return (p,v)
  return sortOn Prod.fst read

def addVariable (name : String) (value : Value) (file : String) : Loader Unit :=
  modify fun s => {s with values := s.values ++ [⟨name,value,file⟩]}

def addVariables (v : Value) (file : String) (f : Value → Result Value) : Loader Unit := do
  if v.truthy then
    for (k,x) in (← lift v.pairs) do addVariable k.display (← lift (f x)) file

def addDefaults (file : String) (v : Value) : Loader Unit := do
  for block in (v.getD "variable").items do
    for (name,definition) in block.entries do
      match definition.getD "default" with
      | .list xs => addVariable name.display (← lift (Value.nth xs 0)) file
      | _ => pure ()

def firstOrNull (v : Value) : Result Value :=
  match v.first with
  | .error .outOfRange => .ok .null
  | r => r

def readDirectory (dir : String) (varFiles excluded : List String) (root : String) (given : Fields) : Loader Unit := do
  if !ws.isDir dir then throw .fileNotFound
  let names ← lift (Workspace.kept root excluded [] (ws.fileNames dir))
  let path (n : String) := PathName.join dir n
  let isAuto (n : String) := endsWith n ".auto.tfvars.json" || endsWith n ".auto.tfvars"
  let isFixed (n : String) := n == "terraform.tfvars.json" || n == "terraform.tfvars"
  let isExplicit (n : String) := !isFixed n && !isAuto n && varFiles.contains (path n)
  let resources := names.filter fun n => !isFixed n && !isAuto n && !isExplicit n && endsWith n ".tf"
  for (file,v) in (← readFiles ws (resources.map path)) do
    if v.truthy then
      modify fun s => {s with keys := insertPair file file s.keys}
      addDefaults file v
  if names.contains "terraform.tfvars" then
    let file := path "terraform.tfvars"
    addVariables (← tryReadFile ws file false) file firstOrNull
  if names.contains "terraform.tfvars.json" then
    let file := path "terraform.tfvars.json"
    addVariables (← tryReadFile ws file true) file .ok
  for (file,v) in (← readFiles ws ((names.filter isAuto).map path)) do addVariables v file .ok
  let explicit ← readFiles ws ((names.filter isExplicit).map path)
  for file in varFiles.eraseDups do
    match explicit.lookup file with
    | some v => addVariables v file .ok
    | none => pure ()
  for (k,v) in given do addVariable k v "manual specification"

def resolvedKey : String := "__resolved__"

mutual

def setPath : List (String ⊕ Nat) → Value → Value → Value
  | [],new,_ => new
  | .inl k :: ps,new,.dict fs => .dict (setPathFields k ps new fs)
  | .inr i :: ps,new,.list xs => .list (setPathItems i ps new xs)
  | _::_,_,v => v

def setPathFields (k : String) (ps : List (String ⊕ Nat)) (new : Value) : Fields → Fields
  | [] => if ps.isEmpty then [(k,new)] else []
  | (k',v)::r => if k' == k then (k,setPath ps new v) :: r else (k',v) :: setPathFields k ps new r

def setPathItems (i : Nat) (ps : List (String ⊕ Nat)) (new : Value) : List Value → List Value
  | [] => []
  | v::r => if i == 0 then setPath ps new v :: r else v :: setPathItems (i - 1) ps new r

end

def noteResolved (call : ModuleCall) (keys : List String) : Loader Unit :=
  modify fun s => { s with files := s.files.map fun (f,v) =>
    if f == call.file then
      (f,setPath [.inl "module",.inr call.number,.inl call.name,.inl resolvedKey]
        (Value.ofStrings (sort keys)) v)
    else (f,v) }

def sourceDirectory (dir source : String) : Option String :=
  if startsWith source "./" || startsWith source "../" || startsWith source dir || startsWith source "/" then
    let path := if startsWith source dir then source else normalize (PathName.join dir source)
    if ws.has path then some (replace path "//" "/") else none
  else none

def claim (call : ModuleCall) (dir : String) (resolved : Value) : Loader (List (String × String) × Bool) := do
  let found := (← get).keys.filter fun (k,_) => dirname k == dir
  if found.isEmpty then return ([],false)
  let own := found.filter fun (k,_) => !endsWith k "]"
  let key (k : String) := ModulePath.key ⟨k,call.file,toString call.number⟩
  let moved := own.map fun (k,f) => (key k,f)
  let listed := (resolved.items.filterMap Value.text?)
  let listed := moved.foldl (fun acc (k,_) => if acc.contains k then acc else acc ++ [k]) listed
  noteResolved call listed
  modify fun s => { s with
    called := own.foldl (fun acc (k,_) => if acc.contains k then acc else acc ++ [k]) s.called
    keys := s.keys.filter fun (k,_) => !(own.any fun (o,_) => o == k)
    numbers := if own.isEmpty || s.numbers.any (fun (k,_) => k == (call.file,call.name)) then s.numbers
      else s.numbers ++ [((call.file,call.name),toString call.number)] }
  let kept := found.filter fun (k,_) => endsWith k "]"
  return (kept ++ moved,true)

def arguments (v : Value) : Result Fields := do
  (v.fields.filter fun (k,_) => k != "source" && k != "version").mapM fun (k,x) => do
    return (k,← match x with
      | .list xs => Value.nth xs 0
      | x => pure x)

mutual

def loadDirectory (ws : Workspace) : Nat → String → List String → List String → String → Fields → Loader Unit
  | 0,_,_,_,_,_ => throw .tooDeep
  | n+1,dir,varFiles,excluded,root,given => do
    readDirectory ws dir varFiles excluded root given
    if ← loadModules ws n dir false then
      let _ ← loadModules ws n dir true

/-- Calls with arguments that refer to something are left for a second round, in which `force` is
set. Says whether some were. -/
def loadModules (ws : Workspace) : Nat → String → Bool → Loader Bool
  | 0,_,_ => throw .tooDeep
  | n+1,dir,force => do
    let mut skipped := false
    let mut brought : List (String × String) := []
    for (key,file) in (← get).keys do
      if dirname key == dir && !endsWith key "]" && (((← get).keys.lookup key).isSome) then
        let calls := (((← get).files.lookup file).getD .null).getD "module"
        for (block,number) in calls.items.zipIdx do
          for (name,data) in block.fields do
            let call : ModuleCall := ⟨file,number,name⟩
            if data.isDict && !(← get).calls.contains call then
              let given ← lift (arguments data)
              if !force && !(given.all fun (k,v) => isResolved v && isTextResolved k) then skipped := true
              else
                modify fun s => {s with calls := call :: s.calls}
                let more ← loadModule ws n dir call data given
                brought := brought ++ more
    modify fun s => {s with keys := brought.foldl (fun acc (k,f) => insertPair k f acc) s.keys}
    return skipped

/-- Gives the keys of the definitions brought in. A module that cannot be loaded is left out. -/
def loadModule (ws : Workspace) : Nat → String → ModuleCall → Value → Fields → Loader (List (String × String))
  | 0,_,_,_,_ => throw .tooDeep
  | n+1,dir,call,data,given => do
    match data.getD "source" with
    | .list (.str source :: _) =>
      let source := if startsWith source "./" || startsWith source "../" then
          normalize (PathName.join (dirname (ModulePath.callMark.replace call.file "")) source)
        else source
      let version := match (data.get? "version").getD "latest" with
        | .list (v::_) | v => v
      let some path := sourceDirectory ws dir source | return []
      try
        loadDirectory ws n path [] [] "" given
        let now := ((((← get).files.lookup call.file).getD .null).getD "module").items
        let resolved := (((now[call.number]?).getD .null).getD call.name).getD resolvedKey
        let (brought,found) ← claim call path resolved
        if found then modify fun s => {s with sources := insertPair (source,version) path s.sources}
        return brought
      catch _ => return []
    | _ => return []

end

end Loader

end InfraAudit.Terraform
