import InfraAudit.Policy.Net

/-!
The verdicts of a policy: which blocks of a net pass and which fail. A run changes a net in two ways only: tests store what
path queries select, and connections found are noted. Both stay even if the run fails.
-/

namespace InfraAudit.Policy

structure Outcome where
  passed : List Nat := []
  failed : List Nat := []
  deriving DecidableEq, Repr, Inhabited

def Outcome.append (a b : Outcome) : Outcome := ⟨a.passed ++ b.passed,a.failed ++ b.failed⟩

def Outcome.swap (o : Outcome) : Outcome := ⟨o.failed,o.passed⟩

def Outcome.of (i : Nat) : Option Bool → Outcome
  | some true => {passed := [i]}
  | some false => {failed := [i]}
  | none => {}

structure Ends where
  types : TypeNames
  connected : TypeNames
  under : List Nat
  opposite : List Nat
  excluded : List Nat

structure Tally where
  digest : Value
  vertex : Nat
  count : Nat

def Tally.add (digest : Value) (i : Nat) : List Tally → List Tally
  | [] => [⟨digest,i,1⟩]
  | t::ts => if t.digest == digest then {t with count := t.count+1} :: ts else t :: Tally.add digest i ts

def associates (types connected : TypeNames) (a b : Value) : Result Bool := do
  if ← types.has a then
    if ← connected.has b then return true
  if ← connected.has a then types.has b else return false

def keptTypes (cs : List Condition) : Result (List Value) := do
  let parts ← (cs.filterMap Condition.filter?).mapM fun (a,v) => if a = some "resource_type" then v.elems else pure []
  return parts.flatten

/-- Connections that touch a type that is kept are looked at last. -/
def isLate (types : List Value) (c : Condition) : Bool :=
  let (ts,us) := c.endTypes
  (ts.members ++ us.members).any fun t => (Value.str t).elem types

namespace Net

variable (g : Net)

def ofTypes (types : TypeNames) (nodes : List Nat) : Result (List Nat) :=
  nodes.filterM fun i => types.includes (g.attributes i)

def typeOf (i : Nat) : Value := (g.get? i "resource_type").getD .null

/-- Only resources and data are judged by conditions that stand alone. -/
def isJudged (i : Nat) : Bool :=
  match g.get? i "block_type_" with
  | some "resource" | some "data" => true
  | _ => false

def concerns (types : TypeNames) (i : Nat) : Result Bool := do
  let named ← if types.isEmpty then pure true else types.has (g.typeOf i)
  return named && g.isJudged i

def ends (types connected : TypeNames) (nodes exclude : List Nat) : Result Ends := do
  let under ← g.ofTypes types nodes
  let opposite ← g.ofTypes connected nodes
  return {types, connected, under, opposite, excluded := (under ++ opposite).filter (g.isAmong · exclude)}

/-- What an edge says, and whether it is a connection itself: both its ends pass or fail, or the
ends of a way through an output pass. -/
def alongEdge (e : Ends) (nodes : List Nat) (u v : Nat) : Result (Outcome × Bool) := do
  let opposite := if g.isAmong u e.under then e.opposite else if g.isAmong u e.opposite then e.under else []
  if opposite.isEmpty then return ({},false)
  if g.isAmong v opposite then
    let bad := g.isAmong u e.excluded || g.isAmong v e.excluded
    return (if bad then {failed := [u,v]} else {passed := [u,v]},true)
  if g.get? v "block_type_" == some (.str "output") then
    match g.out nodes v with
    | (_,w)::_ =>
      if ← associates e.types e.connected (g.typeOf u) (g.typeOf w) then return ({passed := [u,w]},false)
      return ({},false)
    | [] => return ({},false)
  return ({},false)

def concluded (link : Link) (e : Ends) (o : Outcome) : Outcome :=
  let o := {o with failed := o.failed ++ (e.under ++ e.opposite).filter fun v => !g.isAmong v o.passed}
  match link with
  | .linked => o
  | .notLinked => o.swap
  | .oneLinked => {o with failed := o.failed.filter fun v => !g.isAmong v o.passed}

def ids (vs : List Nat) : Result (List Value) := vs.mapM fun i => g.get i "id_"

def withoutIds (vs : List Nat) (ids : List Value) : Result (List Nat) :=
  vs.filterM fun i => do return !(← g.get i "id_").elem ids

/-- Of vertices with one id in one file the last, in the place of the first. -/
def distinct (g : Net) (kept : List ((Value × Value) × Nat)) : List Nat → Result (List Nat)
  | [] => return kept.map Prod.snd
  | i::is => do
    let id ← g.get i "id_"
    let file ← g.get i "file_path_"
    g.distinct (if kept.any (fun ((a,b),_) => a == id && b == file)
      then kept.map fun ((a,b),j) => ((a,b),if a == id && b == file then i else j)
      else kept ++ [((id,file),i)]) is

def filtered (cs : List Condition) (vs : List Nat) : Result (List Nat) :=
  (cs.filterMap Condition.filter?).foldlM (fun vs (a,v) => vs.filterM fun i => Condition.keeps a v (g.data i)) vs

def kept (cs : List Condition) (o : Outcome) : Result Outcome := do
  let passed ← g.filtered cs o.passed
  let failed ← g.filtered cs o.failed
  return ⟨← g.distinct [] passed,← g.distinct [] failed⟩

def notPassed (failed passed : List Nat) : Result (List Nat) := do
  let ids ← g.ids passed
  failed.filterM fun i => do
    if !(← g.get i "id_").elem ids then return true
    let files ← passed.mapM fun p => g.get p "file_path_"
    return !(← g.get i "file_path_").elem files

def tallied (passed failed : List Nat) (tallies : List Tally) : Result (List Tally) := do
  let ids ← g.ids passed
  failed.foldlM (fun ts i => do
    if (← g.get i "id_").elem ids then return ts
    return Tally.add (← g.get i "hash") i ts) tallies

def reduced (c : Condition) (nodes : List Nat) : Result (List Nat) := do
  let (types,connected) := c.endTypes
  if (← g.ofTypes types nodes).isEmpty then return nodes
  let members := types.members ++ connected.members
  return nodes.filter fun i => (g.typeOf i).text?.any members.contains || g.get? i "block_type_" == some (.str "output")

end Net

abbrev Run := ExceptT Fault (StateM Net)

namespace Run

def atVertex (i : Nat) (test : Test Bool) : Run Bool := do
  let block := (← get).data i
  let (answer,after) := test.run.run block
  modify (·.store i (after.drop block.length))
  answer

/-- There is none if the condition is not for the vertex or cannot be applied. -/
def verdict (t : AttributeTest) (i : Nat) : Run (Option Bool) := do
  if ← (← get).concerns t.types i then tryCatch (do return some (← atVertex i t.holds)) fun _ => return none
  else return none

/-- The outcomes of all, one behind the other. -/
def each {α : Type} (f : α → Run Outcome) : List α → Run Outcome
  | [] => return {}
  | a::as => do
    let o ← f a
    return o.append (← each f as)

def single (t : AttributeTest) (nodes : List Nat) : Run Outcome := each (fun i => return .of i (← verdict t i)) nodes

def passing (c : Condition) : List Nat → Run (List Nat)
  | [] => return []
  | i::is => do
    let b ← atVertex i c.holdsAt
    let rest ← passing c is
    return if b then i :: rest else rest

def combined (c : Condition) (nodes : List Nat) : Run Outcome := do
  let members ← (← get).ofTypes (.oneOf c.typeNames) nodes
  let passed ← passing c members
  let g ← get
  return ⟨passed,members.filter fun i => !g.isAmong i passed⟩

def alongEdge (e : Ends) (nodes : List Nat) (u v : Nat) : Run Outcome := do
  let (o,found) ← (← get).alongEdge e nodes u v
  if found then modify (·.link v u)
  return o

def alone (c : Condition) (nodes : List Nat) : Run Outcome :=
  match c with
  | .attr t => single t nodes
  | .filter _ _ _ => return {}
  | c => if c.isConnected then return {} else combined c nodes

def unconnected (cs : List Condition) (nodes : List Nat) : Run Outcome := each (alone · nodes) cs

def alongEdges (e : Ends) (nodes : List Nat) (es : List (Nat × Nat)) : Run Outcome :=
  each (fun (u,v) => alongEdge e nodes u v) es

def connection (link : Link) (e : Ends) (nodes : List Nat) : Run Outcome := do
  let o ← alongEdges e nodes ((← get).edgesInOrder nodes)
  return (← get).concluded link e o

mutual

def connect : Condition → List Nat → List Nat → Run Outcome
  | .connection link types connected,nodes,exclude => do
    let e ← (← get).ends types connected nodes exclude
    connection link e nodes
  | .conj cs,nodes,_ => do
    let members ← (← get).ofTypes (Condition.conj cs).endTypes.1 nodes
    if members.isEmpty then return {}
    let o ← unconnected cs nodes
    let failedIds ← (← get).ids o.failed
    let passed ← (← get).withoutIds o.passed failedIds
    let types ← keptTypes cs
    let (o,failedIds) ← connectAll cs types false nodes (⟨passed,o.failed⟩,failedIds)
    let (o,failedIds) ← connectAll cs types true nodes (o,failedIds)
    let passed ← (← get).withoutIds o.passed failedIds
    (← get).kept cs {o with passed}
  | .disj cs,nodes,_ => do
    let o ← unconnected cs nodes
    let failed ← (← get).notPassed o.failed o.passed
    let (linked,tallies) ← connectAny cs nodes ([],[])
    let g ← get
    let count := (cs.filter Condition.isConnected).length
    let added := (tallies.filter fun t => t.count == count || !g.isAmong t.vertex linked).map (·.vertex)
    let passed := o.passed ++ linked
    let failed ← g.notPassed (failed ++ added) passed
    g.kept cs ⟨passed,failed⟩
  | _,_,_ => return {}

def connectAll : List Condition → List Value → Bool → List Nat → Outcome × List Value → Run (Outcome × List Value)
  | [],_,_,_,acc => return acc
  | c::cs,types,late,nodes,(o,failedIds) => do
    if c.isConnected && isLate types c == late then
      let p ← connect c nodes o.failed
      let ids ← (← get).ids p.failed
      connectAll cs types late nodes (o.append p,failedIds ++ ids)
    else connectAll cs types late nodes (o,failedIds)

def connectAny : List Condition → List Nat → List Nat × List Tally → Run (List Nat × List Tally)
  | [],_,acc => return acc
  | c::cs,nodes,(passed,tallies) => do
    if c.isConnected then
      let o ← connect c nodes []
      let passed := passed ++ o.passed
      let tallies ← (← get).tallied passed o.failed tallies
      connectAny cs nodes (passed,tallies)
    else connectAny cs nodes (passed,tallies)

end

def policy (c : Condition) : Run Outcome := do
  let g ← get
  match c with
  | .filter _ _ _ => throw (.unsupported "")
  | .connection link types connected => do
    let e ← g.ends types connected g.nodes []
    connection link e (← g.reduced c g.nodes)
  | c => if c.isConnected then do connect c (← g.reduced c g.nodes) [] else alone c g.nodes

end Run

end InfraAudit.Policy
