import InfraAudit.Expr.Coercion

/-!
Dynamic blocks. A block `dynamic "name" { content { … } }` stands for blocks of that name, so its content is put under the
name. Of several blocks under one name only the first is looked into.

A content is the same thing under its name and in its dynamic block, so what a later expansion makes of it shows in both
places. So the blocks of a configuration are kept in a heap, in which both name one place.
-/

namespace InfraAudit.Terraform

inductive Slot where
  | value (v : Value)
  | list (slots : List Slot)
  | block (place : Nat)

namespace Slot

/-- The block that is looked into. -/
def head? : Slot → Option Nat
  | .block p | .list (.block p :: _) => some p
  | _ => none

mutual

def load (blockAt : Nat → Value) : Slot → Value
  | .value v => v
  | .list slots => .list (loadItems blockAt slots)
  | .block p => blockAt p

def loadItems (blockAt : Nat → Value) : List Slot → List Value
  | [] => []
  | s::ss => load blockAt s :: loadItems blockAt ss

end

end Slot

abbrev SlotFields := List (String × Slot)

abbrev Heap := List SlotFields

namespace Heap

mutual

/-- What a block holds is stored before it. -/
def store : Value → Heap → Slot × Heap
  | .dict fs,h =>
    let (slots,h) := storeFields fs h
    (.block h.length,h ++ [slots])
  | .list xs,h =>
    let (slots,h) := storeItems xs h
    (.list slots,h)
  | v,h => (.value v,h)

def storeItems : List Value → Heap → List Slot × Heap
  | [],h => ([],h)
  | v::vs,h =>
    let (slot,h) := store v h
    let (slots,h) := storeItems vs h
    (slot::slots,h)

def storeFields : Fields → Heap → SlotFields × Heap
  | [],h => ([],h)
  | (k,v)::r,h =>
    let (slot,h) := store v h
    let (slots,h) := storeFields r h
    ((k,slot)::slots,h)

end

variable (h : Heap)

def fields (p : Nat) : SlotFields := h.getD p []

def loadAt (h : Heap) : Nat → Nat → Value
  | 0,_ => .null
  | n+1,p => .dict ((h.fields p).map fun (k,s) => (k,s.load (h.loadAt n)))

def elements : Option Slot → Result (List Slot)
  | none => .ok []
  | some (.value v) => do return (← v.elems).map .value
  | some (.list slots) => .ok slots
  | some (.block p) => .ok ((h.fields p).map fun (k,_) => .value (.str k))

def contentOf : Slot → Result Slot
  | .value v => .value <$> v.getOr "content" (.list [])
  | .list _ => .error .noMember
  | .block p => .ok (((h.fields p).lookup "content").getD (.list []))

/-- The contents that an element gives, by their names. A text stands for the document it spells, if any. -/
def share (element : Slot) : Result (SlotFields × Heap) := do
  let (slot,h) := match element with
    | .value v => store ((spelled? v).getD (.dict [])) h
    | slot => (slot,h)
  let named ← match slot with
    | .value v => do pure ((← v.pairs).map fun (k,w) => (k.display,Slot.value w))
    | .list _ => .error .noMember
    | .block p => .ok (h.fields p)
  return (← named.mapM fun (name,s) => do return (name,← h.contentOf s),h)

def shareAll : List Slot → Heap → Result (SlotFields × Heap)
  | [],h => .ok ([],h)
  | e::es,h => do
    let (first,h) ← h.share e
    let (rest,h) ← shareAll es h
    return (first ++ rest,h)

def put (name : String) (content : Slot) : SlotFields → SlotFields := upsert name content fun _ => content

def write (contents fs : SlotFields) : SlotFields := contents.foldl (fun fs c => put c.1 c.2 fs) fs

def expandAt (p : Nat) : Result Heap := do
  let (contents,h) ← shareAll (← h.elements ((h.fields p).lookup "dynamic")) h
  return h.set p (write contents (h.fields p))

def heads (fs : SlotFields) : List Nat := fs.filterMap (·.2.head?)

def visit : Nat → Nat → Heap → Result Heap
  | 0,_,_ => .error .tooDeep
  | n+1,p,h => do
    let h ← (heads (h.fields p)).foldlM (fun h q => visit n q h) h
    h.expandAt p

end Heap

/-- The configuration at a place after some calls, each of which looks into all blocks once. -/
def expandTimes (p : Nat) : Nat → Heap → Result Heap
  | 0,h => .ok h
  | n+1,h => do
    let h ← expandTimes p n h
    h.visit (h.length+1) p

def expandCalls (n : Nat) (conf : Value) : Result Value :=
  match conf with
  | .table _ => .ok conf
  | _ =>
    match Heap.store conf [] with
    | (.block p,h) => do
      let h ← expandTimes p n h
      return h.loadAt (h.length+1) p
    | _ => .error .noMember

def expandDynamic (conf : Value) : Result Value := expandCalls 1 conf

end InfraAudit.Terraform
