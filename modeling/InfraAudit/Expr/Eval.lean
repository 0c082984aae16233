import InfraAudit.Expr.Functions

namespace InfraAudit.Expr

open Value

inductive Datum where
  | data (v : Value)
  | function (name : String)
  | member (v : Value) (name : String)
  | closure (params : List (String × Option Datum)) (body : Term) (env : List (String × Datum))
  deriving Inhabited

structure Scope where
  names : List (String × Datum) := []
  top : Bool := true

def Datum.value : Datum → Value
  | .data v => v
  | .function n => .thing ((functionKind? n).getD "function")
  | .member _ _ => .thing "builtin_function_or_method"
  | .closure _ _ _ => .thing "function"

def Datum.callable : Datum → Bool
  | .data _ => false
  | _ => true

def bindTargets (targets : List String) (v : Value) : Result (List (String × Datum)) := do
  match targets with
  | [n] => return [(n,.data v)]
  | ns =>
    let xs ← v.elems
    if xs.length == ns.length then return ns.zip (xs.map .data) else .error .badValue

def bindParams : List (String × Option Datum) → List Value → Fields → Result (List (String × Datum))
  | [],[],[] => .ok []
  | [],_,_ => wrong
  | (n,_)::ps,a :: as,named =>
    if (named.lookup n).isSome then wrong
    else do return (n,.data a) :: (← bindParams ps as named)
  | (n,d)::ps,[],named =>
    match named.lookup n with
    | some v => do return (n,.data v) :: (← bindParams ps [] (named.filter (·.1 != n)))
    | none => match d with
      | some d => do return (n,d) :: (← bindParams ps [] named)
      | none => wrong

mutual

def eval : Nat → Scope → Term → Result Datum
  | 0,_,_ => .error .tooDeep
  | fuel+1,sc,e =>
    match e with
    | .lit v => .ok (.data v)
    | .name n =>
      match sc.names.lookup n with
      | some d => .ok d
      | none =>
        if sc.top && (functionKind? n).isSome then .ok (.function n) else .error .unbound
    | .list xs => do return .data (.list (← evalItems fuel sc xs))
    | .tuple xs => do return .data (.tuple (← evalItems fuel sc xs))
    | .set xs => do
      let xs ← evalItems fuel sc xs
      if xs.all hashable then return .data (.ofItems xs) else wrong
    | .dict es => do return .data (.ofEntries (← evalEntries fuel sc [] es))
    | .unary op a => do return .data (← unary op (← evalValue fuel sc a))
    | .binary op a b => do
      let x ← evalValue fuel sc a
      let y ← evalValue fuel sc b
      return .data (← if op == .mod then formatted x y else binary op x y)
    | .compare a rest => do
      let x ← evalValue fuel sc a
      return .data (.bool (← evalComparisons fuel sc x rest))
    | .both a b => do
      let x ← eval fuel sc a
      if x.value.truthy then eval fuel sc b else return x
    | .either a b => do
      let x ← eval fuel sc a
      if x.value.truthy then return x else eval fuel sc b
    | .choose c a b => do
      if (← evalValue fuel sc c).truthy then eval fuel sc a else eval fuel sc b
    | .member a name => do
      match ← eval fuel sc a with
      | .data v => if hasMember v name then return .member v name else .error .noMember
      | _ => .error .noMember
    | .index a i => do
      let x ← evalValue fuel sc a
      return .data (← x.item (← evalValue fuel sc i))
    | .slice a lo hi step => do
      let x ← evalValue fuel sc a
      let lo ← evalBound fuel sc lo
      let hi ← evalBound fuel sc hi
      match ← evalBound fuel sc step with
      | none | some 1 => return .data (← x.sliced lo hi)
      | some (-1) =>
        if lo.isNone && hi.isNone then return .data (← reversed x) else .error .badValue
      | some _ => .error .badValue
    | .call f args named => do
      let g ← eval fuel sc f
      let args ← evalItems fuel sc args
      let named ← evalNamed fuel sc named
      match g with
      | .data _ => wrong
      | .function n => if named.isEmpty then return .data (← callFunction n args) else wrong
      | .member v n => if named.isEmpty then return .data (← callMember v n args) else wrong
      | .closure params body env => do
        let bound ← bindParams params args named
        eval fuel ⟨bound ++ env,false⟩ body
    | .spread _ => bad
    | .lambda params body => do
      let params ← evalDefaults fuel sc params
      return .closure params body (if sc.top then [] else sc.names)
    | .collect kind key item clauses => do
      match kind with
      | .generator =>
        match clauses with
        | (_,src,_)::_ =>
          let _ ← (← evalValue fuel sc src).elems
          return .data (.thing "generator")
        | [] => bad
      | kind =>
        let rows ← evalClauses fuel sc sc key item clauses
        match kind with
        | .list => return .data (.list (rows.map Prod.snd))
        | .set => if rows.all (·.2.hashable) then return .data (.ofItems (rows.map Prod.snd)) else wrong
        | _ => if rows.all (·.1.hashable) then return .data (.ofEntries (insertAll rows [])) else wrong

def evalValue : Nat → Scope → Term → Result Value
  | 0,_,_ => .error .tooDeep
  | fuel+1,sc,e => do return (← eval fuel sc e).value

def evalItems : Nat → Scope → List Term → Result (List Value)
  | 0,_,_ => .error .tooDeep
  | _,_,[] => .ok []
  | fuel+1,sc,.spread a :: r => do
    let xs ← (← evalValue fuel sc a).elems
    return xs ++ (← evalItems fuel sc r)
  | fuel+1,sc,e :: r => do
    let v ← evalValue fuel sc e
    return v :: (← evalItems fuel sc r)

def evalNamed : Nat → Scope → List (String × Term) → Result Fields
  | 0,_,_ => .error .tooDeep
  | _,_,[] => .ok []
  | fuel+1,sc,(n,e) :: r => do
    let v ← evalValue fuel sc e
    return (n,v) :: (← evalNamed fuel sc r)

def evalDefaults : Nat → Scope → List (String × Option Term) → Result (List (String × Option Datum))
  | 0,_,_ => .error .tooDeep
  | _,_,[] => .ok []
  | fuel+1,sc,(n,d) :: r => do
    let v ← if let some e := d then some <$> eval fuel sc e else pure none
    return (n,v) :: (← evalDefaults fuel sc r)

def evalEntries : Nat → Scope → Entries → List (Option Term × Term) → Result Entries
  | 0,_,_,_ => .error .tooDeep
  | _,_,acc,[] => .ok acc
  | fuel+1,sc,acc,(some k,v) :: r => do
    let k ← evalValue fuel sc k
    let v ← evalValue fuel sc v
    if k.hashable then evalEntries fuel sc (insertEntry k v acc) r else wrong
  | fuel+1,sc,acc,(none,e) :: r => do
    let m ← evalValue fuel sc e
    if m.isDict then evalEntries fuel sc (insertAll m.entries acc) r else wrong

def evalComparisons : Nat → Scope → Value → List (CompareOp × Term) → Result Bool
  | 0,_,_,_ => .error .tooDeep
  | _,_,_,[] => .ok true
  | fuel+1,sc,x,(op,e) :: r => do
    let y ← evalValue fuel sc e
    if ← compareValues op x y then evalComparisons fuel sc y r else return false

def evalBound : Nat → Scope → Option Term → Result (Option Int)
  | 0,_,_ => .error .tooDeep
  | _,_,none => .ok none
  | fuel+1,sc,some e => do
    let v ← evalValue fuel sc e
    if v.isNull then return none else return some (← v.needInt)

def evalClauses : Nat → Scope → Scope → Option Term → Term → List (List String × Term × List Term) → Result Entries
  | 0,_,_,_,_,_ => .error .tooDeep
  | fuel+1,_,inner,key,item,[] => do
    let k ← match key with
      | some k => evalValue fuel inner k
      | none => pure .null
    return [(k,← evalValue fuel inner item)]
  | fuel+1,outer,inner,key,item,(targets,src,tests) :: r => do
    let xs ← (← evalValue fuel outer src).elems
    evalRows fuel inner key item targets tests r xs

def evalRows : Nat → Scope → Option Term → Term → List String → List Term →
    List (List String × Term × List Term) → List Value → Result Entries
  | 0,_,_,_,_,_,_,_ => .error .tooDeep
  | _,_,_,_,_,_,_,[] => .ok []
  | fuel+1,sc,key,item,targets,tests,clauses,x :: xs => do
    let bound ← bindTargets targets x
    let inner : Scope := ⟨bound ++ (if sc.top then [] else sc.names),false⟩
    let keep ← evalTests fuel inner tests
    let rows ← if keep then evalClauses fuel inner inner key item clauses else pure []
    return rows ++ (← evalRows fuel sc key item targets tests clauses xs)

def evalTests : Nat → Scope → List Term → Result Bool
  | 0,_,_ => .error .tooDeep
  | _,_,[] => .ok true
  | fuel+1,sc,e :: r => do
    if (← evalValue fuel sc e).truthy then evalTests fuel sc r else return false

end

def evaluate (s : String) : Result Datum := do
  let e ← read s
  eval (4*s.length+1000) {} e

end InfraAudit.Expr
