import InfraAudit.Value.Access

namespace InfraAudit.Graph

open Text Fields

def numbered (count position : Nat) (s : String) : List String :=
  (List.range count).map fun i => take s position ++ toString i ++ drop s (position+1)

/-- Each wildcard is one of the first numbers, or all are left out. -/
def expandWildcards (count : Nat) (s : String) : List String :=
  let places := (s.toList.zipIdx.filter fun (c,_) => c == '*').map Prod.snd
  if s.isEmpty then []
  else if places.isEmpty then [s]
  else places.reverse.foldl (fun acc p => acc.flatMap (numbered count p)) [s] ++ [replace s ".*" ""]

def dotted (key part : String) : String := key ++ "." ++ part

def unwrapIf (unwrap : Bool) (v : Value) : Value := if unwrap then v.unwrapped else v

mutual

/-- A value after flattening, and its parts under their dotted paths. With `unwrap`, nested lists of
one item give way to it. Empty keys are left out. -/
def flatten (unwrap : Bool) (key : String) : Value → Value × Fields
  | .list xs =>
    let (ys,parts) := flattenItems unwrap key 0 xs
    (.list ys,parts)
  | .dict fs =>
    let (gs,parts) := flattenFields unwrap key fs
    (.dict gs,parts)
  | .table es =>
    let (gs,parts) := flattenEntries unwrap key es
    (.table gs,parts)
  | v => (v,[])

def flattenPart (unwrap : Bool) (key : String) : Value → Value × Fields
  | .list [x] =>
    if unwrap then
      let (v,parts) := flatten unwrap key x
      (v,(key,v) :: parts)
    else
      let (v,parts) := flatten unwrap (dotted key "0") x
      let part := (dotted key "0",v) :: parts
      (.list [v],(key,.list [v]) :: part)
  | .list xs =>
    let (ys,parts) := flattenItems unwrap key 0 xs
    (.list ys,(key,.list ys) :: parts)
  | .dict fs =>
    let (gs,parts) := flattenFields unwrap key fs
    (.dict gs,(key,.dict gs) :: parts)
  | .table es =>
    let (gs,parts) := flattenEntries unwrap key es
    (.table gs,(key,.table gs) :: parts)
  | v => (v,[(key,v)])

def flattenItems (unwrap : Bool) (key : String) : Nat → List Value → List Value × Fields
  | _,[] => ([],[])
  | i,x :: xs =>
    let (y,part) := flattenPart unwrap (dotted key (toString i)) x
    let (ys,parts) := flattenItems unwrap key (i+1) xs
    (y::ys,part ++ parts)

def flattenFields (unwrap : Bool) (key : String) : Fields → Fields × Fields
  | [] => ([],[])
  | (k,x)::r =>
    let (gs,parts) := flattenFields unwrap key r
    if k.isEmpty then (gs,parts)
    else
      let (y,part) := flattenPart unwrap (dotted key k) x
      ((k,y) :: gs,part ++ parts)

def flattenEntries (unwrap : Bool) (key : String) : Entries → Entries × Fields
  | [] => ([],[])
  | (k,x)::r =>
    let (gs,parts) := flattenEntries unwrap key r
    let (y,part) := flattenPart unwrap (dotted key k.display) x
    ((k,y) :: gs,part ++ parts)

end

/-- The key itself and the paths into the value. Of two branches spelled alike the later counts. -/
def innerAttributes (unwrap unwrapTop : Bool) (key : String) (v : Value) : Fields :=
  let (w,parts) := flatten unwrap key (unwrapIf unwrapTop v)
  ofPairs ((key,w) :: parts)

mutual

def withoutEmptyKeys : Value → Value
  | .list xs => .list (itemsWithoutEmptyKeys xs)
  | .dict fs => .dict (fieldsWithoutEmptyKeys fs)
  | v => v

def itemsWithoutEmptyKeys : List Value → List Value
  | [] => []
  | x::xs => withoutEmptyKeys x :: itemsWithoutEmptyKeys xs

def fieldsWithoutEmptyKeys : Fields → Fields
  | [] => []
  | (k,x)::r =>
    if k.isEmpty then fieldsWithoutEmptyKeys r
    else (k,withoutEmptyKeys x) :: fieldsWithoutEmptyKeys r

end

/-- The shortest start of the key that the mapping has, and the number of its parts. -/
def entryKey? (fs : Fields) (parts : List String) : Nat → Option (String × Nat)
  | 0 => none
  | n+1 =>
    match entryKey? fs parts n with
    | some r => some r
    | none =>
      let k := join "." (parts.take (n+1))
      if has fs k then some (k,n+1) else none

mutual

/-- In a list a number selects an item, any other key all items. A key of one part is always set. -/
def setInner (parts : List String) (new : Value) : Value → Value
  | .list xs =>
    let first := parts.headD ""
    if isNonemptyOf isNumericLike first then .list (setItem (parts.drop 1) new (((first.toNat?).getD 0)) xs)
    else .list (setItems [first] new xs)
  | .dict fs =>
    let key := join "." parts
    let entry := entryKey? fs parts parts.length
    let gs := if has fs key then insert key new fs else fs
    if parts.length == 1 then .dict (if key.isEmpty then gs else insert key new gs)
    else match entry with
      | some (k,n) =>
        let rest := parts.drop n
        if rest.isEmpty then .dict gs else
          let hs := setField rest new k fs
          .dict (if has fs key then insert key new hs else hs)
      | none => .dict gs
  | v => v

def setItem (rest : List String) (new : Value) : Nat → List Value → List Value
  | _,[] => []
  | 0,x :: xs => (if x.isDict then setInner rest new x else new) :: xs
  | i+1,x :: xs => x :: setItem rest new i xs

def setItems (parts : List String) (new : Value) : List Value → List Value
  | [] => []
  | x::xs => setInner parts new x :: setItems parts new xs

def setField (rest : List String) (new : Value) (key : String) : Fields → Fields
  | [] => []
  | (k,x)::r => if k == key then (k,setInner rest new x) :: r else (k,x) :: setField rest new key r

end

def hasNumber : List Char → Bool
  | '.' :: c :: r => isDecimal c || hasNumber (c::r)
  | _::r => hasNumber r
  | [] => false

/-- A mapping or, if some key that starts like it has a number after a dot, a list. -/
def hasNested (key : String) (fs : Fields) : Bool :=
  let v := (get? fs key).getD .null
  if fs.any fun (k,_) => startsWith k key && k != key && hasNumber k.toList then v.isList || v.isDict
  else v.isDict

def withoutStems (keys : List String) : List String := keys.filter fun k => !keys.any fun o => o != k && startsWith o k

end InfraAudit.Graph
