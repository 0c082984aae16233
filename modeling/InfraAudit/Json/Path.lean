import InfraAudit.Expr.Coercion
import InfraAudit.Text.Pattern.Reader

namespace InfraAudit.Json

inductive Comparison where
  | eq
  | ne
  | lt
  | le
  | gt
  | ge
  | found
  deriving DecidableEq, Repr

mutual

inductive Path where
  | root
  | this
  | parent
  | fields (names : List String)
  | index (i : Int)
  | slice (start stop step : Option Int)
  | child (left right : Path)
  | beneath (left right : Path)
  | either (left right : Path)
  | both (left right : Path)
  | having (left right : Path)
  | filter (tests : Tests)

inductive Tests where
  | nil
  | cons (target : Path) (test : Option (Comparison × Value)) (rest : Tests)

end

structure Spot where
  value : Value
  steps : List String := []
  above : List Value := []

namespace Spot

def stepName (name : String) : String :=
  if name.toList.any ("*.[]()$,:|&~".toList.contains ·) then "'" ++ name ++ "'" else name

variable (s : Spot)

def down (step : String) (v : Value) : Spot := {value := v, steps := step :: s.steps, above := s.value :: s.above}

def position (i : Nat) : String := "[" ++ toString i ++ "]"

def path : String :=
  if s.steps.isEmpty then "$" else Text.join "." s.steps.reverse

def atTop : Spot :=
  match s.above.getLast? with
  | some v => {value := v}
  | none => {value := s.value}

def up : List Spot :=
  match s.above, s.steps with
  | v::above,_ :: steps => [{value := v, steps, above}]
  | _,_ => []

def fieldsOf (names : List String) : List Spot :=
  let names := if names.contains "*" then s.value.entries.filterMap (·.1.text?) else names
  names.filterMap fun n => (s.value.get? n).map (s.down (stepName n))

def indexOf (i : Int) : Result (List Spot) := do
  if s.value.falsy then return []
  if Int.ofNat (← s.value.size) > i then return [s.down ("[" ++ toString i ++ "]") (← s.value.index i)]
  return []

def positions (size : Nat) (start stop step : Option Int) : Result (List Nat) := do
  let step := step.getD 1
  if step == 0 then throw .badValue
  if step > 0 then
    let chosen := Text.sliceList (List.range size) start stop
    return (chosen.zipIdx.filter fun (_,k) => k % step.toNat == 0).map Prod.fst
  let n := Int.ofNat size
  let clamp (i : Int) : Int := max (-1) (min (n - 1) (if i < 0 then i+n else i))
  let first := (start.map clamp).getD (n - 1)
  let last := (stop.map clamp).getD (-1)
  return (List.range size).filterMap fun k =>
    let i := first+step*Int.ofNat k
    if i > last && i ≥ 0 then some i.toNat else none

def sliceOf (start stop step : Option Int) : Result (List Spot) := do
  if s.value.falsy then return []
  let s := if s.value.isDict || s.value.isText || s.value.int?.isSome then {s with value := .list [s.value]} else s
  let size ← s.value.size
  (← positions size start stop step).mapM fun i => do return s.down (position i) (← s.value.index (Int.ofNat i))

def parts : Fields :=
  match s.value with
  | .list xs => xs.zipIdx.map fun (x,i) => (position i,x)
  | v => v.entries.map fun (k,x) => (stepName k.display,x)

def descend (query : Spot → Result (List Spot)) : Nat → Spot → Result (List Spot)
  | 0,_ => .error .tooDeep
  | n+1,s => do
    let here ← query s
    let deeper ← s.parts.mapM fun (step,x) => descend query n (s.down step x)
    return here ++ deeper.flatten

end Spot

def Comparison.holds (c : Comparison) (a b : Value) : Result Bool :=
  match c with
  | .eq => .ok (a == b)
  | .ne => .ok (a != b)
  | .lt => a.lt b
  | .le => a.le b
  | .gt => a.gt b
  | .ge => a.ge b
  | .found => do
    let p ← Text.Pattern.read (← b.needText)
    return p.occursIn (← a.needText)

def satisfies (v : Value) (c : Comparison) (bound : Value) : Result Bool :=
  if bound.int?.isSome then match v.toInt with
    | .ok n => c.holds (.int n) bound
    | .error .badValue => .ok false
    | .error f => .error f
  else c.holds v bound

mutual

def Path.find : Path → Spot → Result (List Spot)
  | .root,s => .ok [s.atTop]
  | .this,s => .ok [s]
  | .parent,s => .ok s.up
  | .fields names,s => .ok (s.fieldsOf names)
  | .index i,s => s.indexOf i
  | .slice a b c,s => s.sliceOf a b c
  | .child l r,s => do
    let ls ← l.find s
    return (← ls.mapM fun m => r.find m).flatten
  | .beneath l r,s => do
    let ls ← l.find s
    return (← ls.mapM fun m => Spot.descend (fun m => r.find m) (m.value.nesting+1) m).flatten
  | .either l r,s => do return (← l.find s) ++ (← r.find s)
  | .both _ _,_ => .error (.unsupported "")
  | .having l r,s => do
    let ls ← l.find s
    ls.filterM fun m => do return !(← r.find m).isEmpty
  | .filter tests,s =>
    let s := if s.value.isDict then {s with value := .list (s.value.entries.map Prod.snd)} else s
    match s.value with
    | .list xs => do
      let kept ← xs.zipIdx.filterM fun (x,_) => tests.hold x
      return kept.map fun (x,i) => s.down (Spot.position i) x
    | _ => .ok []

def Tests.hold : Tests → Value → Result Bool
  | .nil,_ => .ok true
  | .cons target test rest,item => do
    let found ← target.find {value := item}
    let kept ← match test with
      | none => pure found
      | some (c,bound) => found.filterM fun m => satisfies m.value c bound
    let others ← rest.hold item
    return !kept.isEmpty && others

end

def Path.select (p : Path) (v : Value) : Result (List Spot) := p.find {value := v}

end InfraAudit.Json
