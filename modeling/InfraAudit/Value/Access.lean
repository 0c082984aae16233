import InfraAudit.Value

namespace InfraAudit

open Text

namespace Value

def charStrings (s : String) : List Value := s.toList.map fun c => .str (String.singleton c)

def needInt (v : Value) : Result Int := v.int?.elim (.error .wrongKind) .ok

def item (v k : Value) : Result Value :=
  match v with
  | .dict fs =>
    if !k.hashable then .error .wrongKind
    else match k with
      | .str s | .element s => (fs.lookup s).elim (.error .missingKey) .ok
      | _ => .error .missingKey
  | .table es =>
    if !k.hashable then .error .wrongKind
    else (findEntry (fun k' => eq k' k) es).elim (.error .missingKey) .ok
  | .list xs | .tuple xs => do nth xs (← k.needInt)
  | .str s | .element s => do nth (charStrings s) (← k.needInt)
  | _ => .error .wrongKind

variable (v : Value) (k : String) (a b : Value)

def field : Result Value := v.item (.str k)

def index (i : Int) : Result Value := v.item (.int i)

def first : Result Value := v.index 0

def getOr (d : Value) : Result Value :=
  match v with
  | .dict fs => .ok ((fs.lookup k).getD d)
  | .table es => .ok ((findEntry (fun k' => eq k' (.str k)) es).getD d)
  | _ => .error .noMember

def partFault : Value → Fault
  | .dict _ | .list _ | .str _ => .noTemplateMember
  | _ => .noMember

def partOr (d : Value) : Result Value :=
  match v with
  | .dict fs => .ok ((fs.lookup k).getD d)
  | v => .error v.partFault

def part : Result Value := v.partOr k .null

def partHas : Result Bool :=
  match v with
  | .dict fs => .ok (Fields.has fs k)
  | v => .error v.partFault

def partFields : Result Fields :=
  match v with
  | .dict fs => .ok fs
  | v => .error v.partFault

def part? : Result (Option Value) := do return (← v.partFields).lookup k

def partText : Result String := v.text?.elim (.error v.partFault) .ok

def get : Result Value := v.getOr k .null

def holds (v x : Value) : Result Bool :=
  match v with
  | .dict fs =>
    if !x.hashable then .error .wrongKind
    else .ok (x.text?.any (Fields.has fs))
  | .table es =>
    if !x.hashable then .error .wrongKind
    else .ok (findEntry (fun k' => eq k' x) es).isSome
  | .list xs | .tuple xs => .ok (elem x xs)
  | .set xs => if x.hashable then .ok (elem x xs) else .error .wrongKind
  | .str s | .element s => x.text?.elim (.error .wrongKind) (.ok <| contains s ·)
  | _ => .error .wrongKind

def has : Result Bool := v.holds (.str k)

def elems : Value → Result (List Value)
  | .list xs | .tuple xs | .set xs => .ok xs
  | .dict fs => .ok (fs.map fun (k,_) => .str k)
  | .table es => .ok (es.map Prod.fst)
  | .str s | .element s => .ok (charStrings s)
  | _ => .error .wrongKind

def enumerate : Result (List (Nat × Value)) := do
  let xs ← v.elems
  return xs.zipIdx.map fun (x,i) => (i,x)

def size : Result Nat := do return (← v.elems).length

def pairs : Result Entries :=
  if v.isDict then .ok v.entries else .error .noMember

def keysOf : Result (List Value) := do return (← v.pairs).map Prod.fst

def valuesOf : Result (List Value) := do return (← v.pairs).map Prod.snd

def asText : Result String := v.text?.elim (.error .noMember) .ok

def needText : Result String := v.text?.elim (.error .wrongKind) .ok

def lowered : Result String := do return lower (← v.asText)

def uppered : Result String := do return upper (← v.asText)

def startsWith (v : Value) (p : String) : Result Bool := do return Text.startsWith (← v.asText) p

def endsWith (v : Value) (p : String) : Result Bool := do return Text.endsWith (← v.asText) p

def splitOn (sep : String) : Result (List String) := do return split (← v.asText) sep

def compareNumbers? : Option (Option Ordering) :=
  match a, b with
  | .float x,.float y => some (Decimal.compareFloats x y)
  | .float x,b => b.int?.map fun n => Decimal.compareFloatInt x n
  | a,.float y => a.int?.map fun n => (Decimal.compareFloatInt y n).map Ordering.swap
  | a,b => do
    let m ← a.int?
    let n ← b.int?
    return some (compare m n)

mutual

def compare? : Value → Value → Result (Option Ordering)
  | .list a,.list b | .tuple a,.tuple b => compareItems a b
  | a,b =>
    match compareNumbers? a b with
    | some o => .ok o
    | none => do return some (compare (← a.needText) (← b.needText))

def compareItems : List Value → List Value → Result (Option Ordering)
  | [],[] => .ok (some .eq)
  | [],_ :: _ => .ok (some .lt)
  | _::_,[] => .ok (some .gt)
  | x::xs,y :: ys => if eq x y then compareItems xs ys else compare? x y

end

def lt (a b : Value) : Result Bool := do return (← compare? a b) == some .lt

def gt (a b : Value) : Result Bool := do return (← compare? a b) == some .gt

def le (a b : Value) : Result Bool := do return (← compare? a b).any (·.isLE)

def ge (a b : Value) : Result Bool := do return (← compare? a b).any (·.isGE)

def indexOf (v x : Value) : Result Nat :=
  match v with
  | .list xs | .tuple xs => ((xs.findIdx? fun y => eq y x)).elim (.error .badValue) .ok
  | .str s => do (find? s (← x.needText)).elim (.error .badValue) .ok
  | _ => .error .noMember

def listed : Value :=
  match v with
  | .list _ => v
  | v => .list [v]

def filledItems : List Value := if v.truthy then v.listed.items else []

def unwrapped : Value :=
  match v with
  | .list [x] => x
  | v => v

def hasKey : Bool := (v.get? k).isSome

def firstOf : Result Value := do (← v.field k).first

def firstOf? : Result (Option Value) := (v.get? k).mapM first

def headOf? : Result (Option Value) := ((v.get? k).filter (·.truthy)).mapM first

def append : Result Value :=
  match a, b with
  | .list xs,.list ys => .ok (.list (xs ++ ys))
  | .tuple xs,.tuple ys => .ok (.tuple (xs ++ ys))
  | a,b => do return .str ((← a.needText) ++ (← b.needText))

def holdsAll (ss : List String) : Result Bool := ss.allM v.has

def reach? (v : Value) : List String → Result (Option Value)
  | [] => .ok (some v)
  | k::ks => do if ← v.has k then reach? (← v.field k) ks else return none

def isWildcard : Value → Bool
  | .str s => s == "*"
  | .list xs => elem "*" xs
  | _ => false

def isOpenAt : Result Bool := do return (← v.reach? [k]).any isWildcard

def isTrue : Value → Bool
  | .bool true => true
  | _ => false

def isFalse : Value → Bool
  | .bool false => true
  | _ => false

def isOnly (s : String) : Bool := v == .list [.str s]

def isOnlyOf (ss : List String) : Bool := ss.any v.isOnly

def isOneOf (ss : List String) : Bool := ss.any fun s => v == .str s

def sliced (i j : Option Int) : Result Value :=
  match v with
  | .list xs => .ok (.list (sliceList xs i j))
  | .tuple xs => .ok (.tuple (sliceList xs i j))
  | .str s | .element s => .ok (.str (slice s i j))
  | _ => .error .wrongKind

end Value

end InfraAudit
