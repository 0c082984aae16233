import InfraAudit.Value.Access

/-!
Paths into values. Each part is a glob that a key or a position has to match; one part `**` stands for any number of steps.
Matches come in the order of a walk from the top.
-/

namespace InfraAudit.Value

abbrev Trail := List Value

def isContainer : Value → Bool
  | .dict _ | .table _ | .list _ => true
  | _ => false

def valueAt (v : Value) : Trail → Result Value
  | [] => .ok v
  | k::ks => do valueAt (← v.item k) ks

def replaceAt (new : Value) : Trail → Value → Value
  | [],_ => new
  | k::ks,.dict fs => match k with
    | .str s => match Fields.get? fs s with
      | some v => .dict (Fields.insert s (replaceAt new ks v) fs)
      | none => .dict fs
    | _ => .dict fs
  | k::ks,.list xs => match k with
    | .int i => match xs[i.toNat]? with
      | some v => .list (xs.set i.toNat (replaceAt new ks v))
      | none => .list xs
    | _ => .list xs
  | _,v => v

mutual

def textPlaces (path : Trail) : Value → List Trail
  | .str _ => [path]
  | .dict fs => textPlacesOfFields path fs
  | .list xs => textPlacesOfItems path 0 xs
  | _ => []

def textPlacesOfFields (path : Trail) : Fields → List Trail
  | [] => []
  | (k,v)::r => textPlaces (path ++ [.str k]) v ++ textPlacesOfFields path r

def textPlacesOfItems (path : Trail) : Nat → List Value → List Trail
  | _,[] => []
  | i,v :: r => textPlaces (path ++ [.int i]) v ++ textPlacesOfItems path (i+1) r

end

structure Deep where
  path : Trail
  value : Value

def Deep.line (d : Deep) : List Value := d.path ++ [d.value]

mutual

/-- A value before those inside it. Mappings under a key of `closed` are not entered. -/
def deepKeys (closed : List String) (key : String) (path : Trail) : Value → List Deep
  | .dict fs => deepKeysOfFields closed key path fs
  | .table es => deepKeysOfEntries closed key path es
  | .list xs => deepKeysOfItems closed key path 0 xs
  | _ => []
termination_by structural v => v

def deepKeysOfFields (closed : List String) (key : String) (path : Trail) : Fields → List Deep
  | [] => []
  | (k,v)::r =>
    (if k == key then [⟨path ++ [.str k],v⟩] else []) ++
      (if v.isDict && closed.contains k then [] else deepKeys closed key (path ++ [.str k]) v) ++
      deepKeysOfFields closed key path r
termination_by structural fs => fs

def deepKeysOfEntries (closed : List String) (key : String) (path : Trail) : Entries → List Deep
  | [] => []
  | (k,v)::r =>
    (if k == .str key then [⟨path ++ [k],v⟩] else []) ++
      (if v.isDict && closed.any (k == .str ·) then [] else deepKeys closed key (path ++ [k]) v) ++
      deepKeysOfEntries closed key path r
termination_by structural es => es

def deepKeysOfItems (closed : List String) (key : String) (path : Trail) : Nat → List Value → List Deep
  | _,[] => []
  | i,x :: xs => deepKeys closed key (path ++ [.int i]) x ++ deepKeysOfItems closed key path (i+1) xs
termination_by structural _ xs => xs

end

variable (v : Value)

def allUnder (key : String) : List Deep := v.deepKeys [] key []

structure Step where
  key : String
  value : Value

def steps : Value → List Step
  | .dict fs => (fs.filter fun (k,_) => !Text.startsWith k "+").map fun (k,v) => ⟨k,v⟩
  | .table es =>
    (es.filter fun (k,_) => match k.text? with
      | some s => !Text.startsWith s "+"
      | none => true).map fun (k,v) => ⟨k.display,v⟩
  | .list xs => xs.zipIdx.map fun (v,i) => ⟨toString i,v⟩
  | _ => []

def pathParts (path : String) : List String := Text.split (String.ofList (path.toList.dropWhile (· == '/'))) "/"

structure Found where
  path : List String
  value : Value

def Found.under (key : String) (f : Found) : Found := ⟨key :: f.path,f.value⟩

def descend : Nat → Value → List Found
  | 0,_ => []
  | depth+1,v => v.steps.flatMap fun s => ⟨[s.key],s.value⟩ :: (descend depth s.value).map (·.under s.key)

def descendants : List Found := descend v.nesting v

def follow (v : Value) : List String → List Found
  | [] => []
  | [p] => (v.steps.filter fun s => Text.globMatches s.key p).map fun s => ⟨[s.key],s.value⟩
  | p::ps => (v.steps.filter fun s => Text.globMatches s.key p).flatMap fun s => (follow s.value ps).map (·.under s.key)

def starParts (parts : List String) (n : Nat) : List String :=
  let before := parts.takeWhile (· != "**")
  let after := (parts.dropWhile (· != "**")).drop 1
  before ++ List.replicate (n - (before.length+after.length)) "*" ++ after

def matchesParts (path parts : List String) : Bool :=
  path.length == parts.length && (path.zip parts).all fun (k,p) => Text.globMatches k p

def hasEmptyKey : Bool :=
  v.descendants.any fun f => match f.path.getLast? with
    | some k => k.isEmpty
    | none => false

def search (path : String) : Result (List Found) :=
  let parts := pathParts path
  if v.hasEmptyKey then .error .emptyKey
  else if parts.contains "**" then
    .ok (v.descendants.filter fun f => matchesParts f.path (starParts parts f.path.length))
  else .ok (v.follow parts)

def single : List Found → Result Value
  | [] => .error .missingKey
  | [f] => .ok f.value
  | f::r => if f.value.isNull then single r else .error .ambiguousPath

def at? (path : String) : Result (Option Value) := do
  let found ← v.search path
  if found.isEmpty then return none
  return some (← single found)

end InfraAudit.Value
