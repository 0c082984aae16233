import InfraAudit.Proofs.Policy.Tests

/-!
Two runs of a policy side by side, on related nets. Both relations are parameters: with one net on both sides the statement
says what a run may change, and with two nets what cannot influence it.
-/

namespace InfraAudit.Policy

open List Net Condition

section

variable {σ α β : Type} {R : σ → σ → Prop}

/-- On related states a computation gives one answer and leaves related states. -/
def Stable (R : σ → σ → Prop) (x : ExceptT Fault (StateM σ) α) : Prop :=
  ∀ s s', R s s' → (exec x s).1 = (exec x s').1 ∧ R (exec x s).2 (exec x s').2

namespace Stable

lemma of_pure (a : α) : Stable R (pure a) := fun _ _ h => ⟨rfl,h⟩

lemma of_throw (e : Fault) : Stable R (throw e : ExceptT Fault (StateM σ) α) := fun _ _ h => ⟨rfl,h⟩

lemma of_lift (r : Result α) : Stable R (liftM r : ExceptT Fault (StateM σ) α) := fun _ _ h => ⟨rfl,h⟩

lemma of_modify {f : σ → σ} (hf : ∀ s s', R s s' → R (f s) (f s')) :
    Stable R (modify f : ExceptT Fault (StateM σ) PUnit) := fun s s' h => ⟨rfl,hf s s' h⟩

lemma exists_same (hx : Stable R x) (h : R s s') :
    ∃ answer t t', exec x s = (answer,t) ∧ exec x s' = (answer,t') ∧ R t t' :=
  ⟨(exec x s).1,(exec x s).2,(exec x s').2,rfl,Prod.ext (hx s s' h).1.symm rfl,(hx s s' h).2⟩

lemma bind (hx : Stable R x) (hf : ∀ a, Stable R (f a)) : Stable R (x >>= f) := by
  intro s s' h
  obtain ⟨answer,t,t',hs,hs',ht⟩ := hx.exists_same h
  rw [exec_bind,exec_bind,hs,hs']
  cases answer with
  | error e => exact ⟨rfl,ht⟩
  | ok a => exact hf a t t' ht

lemma tryCatch {f : Fault → ExceptT Fault (StateM σ) α} (hx : Stable R x) (hf : ∀ e, Stable R (f e)) :
    Stable R (tryCatch x f) := by
  intro s s' h
  obtain ⟨answer,t,t',hs,hs',ht⟩ := hx.exists_same h
  rw [exec_tryCatch,exec_tryCatch,hs,hs']
  cases answer with
  | error e => exact hf e t t' ht
  | ok a => exact ⟨rfl,ht⟩

lemma get_bind {f : σ → ExceptT Fault (StateM σ) β} (hr : ∀ {s s'}, R s s' → f s = f s')
    (hf : ∀ s, Stable R (f s)) : Stable R (get >>= f) := by
  intro s s' h
  rw [exec_bind,exec_bind,exec_get,exec_get]
  show (exec (f s) s).1 = (exec (f s') s').1 ∧ R (exec (f s) s).2 (exec (f s') s').2
  rw [hr h]
  exact hf s' s s' h

/-- Related states agree on what the rest depends on. -/
lemma ask {q : σ → Result α} (hq : ∀ {s s'}, R s s' → q s = q s') (hf : ∀ a, Stable R (f a)) :
    Stable R (get >>= fun s => liftM (q s) >>= f) := get_bind (fun h => by rw [hq h]) fun _ => (of_lift _).bind hf

end Stable

end

open Stable (of_pure of_lift of_throw of_modify get_bind ask)

def Grown (T : Fields → Fields → Prop) (start start' b b' : Fields) : Prop :=
  ∃ new new', b = start ++ new ∧ b' = start' ++ new' ∧ Additions start new ∧ T b b'

/-- On related blocks a test gives one answer; it only adds attributes, and leaves related blocks. -/
def InStep (T : Fields → Fields → Prop) (test : Test Bool) : Prop :=
  ∀ b b', T b b' → (exec test b).1 = (exec test b').1 ∧ Grown T b b' (exec test b).2 (exec test b').2

lemma InStep.stable (h : InStep T test) (start start' : Fields) : Stable (Grown T start start') test := by
  rintro _ _ ⟨new,new',rfl,rfl,hn,hr⟩
  obtain ⟨ha,more,more',hl,hl',hm,hr⟩ := h _ _ hr
  exact ⟨ha,new ++ more,new' ++ more',by rw [hl,append_assoc],by rw [hl',append_assoc],hn.append hm,hr⟩

def LinkClosed (R : Net → Net → Prop) : Prop := ∀ g g', R g g' → ∀ v u, R (g.link v u) (g'.link v u)

namespace Condition

mutual

def simples : Condition → List Condition
  | .attr t => [.attr t]
  | .connection link types connected => [.connection link types connected]
  | .filter a v types => [.filter a v types]
  | .conj cs => simplesOf cs
  | .disj cs => simplesOf cs
  | .negation c => simples c

def simplesOf : List Condition → List Condition
  | [] => []
  | c::cs => simples c ++ simplesOf cs

end

def FitsAlone (R : Net → Net → Prop) (T : Nat → Fields → Fields → Prop) : Condition → Prop
  | .attr t => ∀ i, InStep (T i) t.holds
  | .connection _ _ _ => LinkClosed R
  | .filter a v _ => ∀ i b b', T i b b' → keeps a v b = keeps a v b'
  | _ => True

def Fits (R : Net → Net → Prop) (T : Nat → Fields → Fields → Prop) (c : Condition) : Prop :=
  ∀ d ∈ c.simples, d.FitsAlone R T

def FitsAll (R : Net → Net → Prop) (T : Nat → Fields → Fields → Prop) (cs : List Condition) : Prop :=
  ∀ d ∈ simplesOf cs, d.FitsAlone R T

variable {R : Net → Net → Prop} {T : Nat → Fields → Fields → Prop}

lemma FitsAll.head (h : FitsAll R T (c::cs)) : c.Fits R T := fun d hd =>
  h d (mem_append_left _ hd)

lemma FitsAll.tail (h : FitsAll R T (c::cs)) : FitsAll R T cs := fun d hd =>
  h d (mem_append_right _ hd)

lemma Fits.inStep (h : (attr t).Fits R T) (i : Nat) : InStep (T i) t.holds := h (.attr t) (mem_singleton_self _) i

lemma Fits.linkClosed {link : Link} {types connected : TypeNames} (h : (connection link types connected).Fits R T) :
    LinkClosed R := h _ (mem_singleton_self _)

lemma FitsAll.of_mem (h : FitsAll R T cs) (hc : c ∈ cs) : c.Fits R T := by
  induction cs with
  | nil => cases hc
  | cons d cs ih =>
    rcases mem_cons.1 hc with rfl | hc
    · exact h.head
    · exact ih h.tail hc

lemma Fits.keeps_eq (h : (filter a v types).Fits R T) (hr : T i b b') : keeps a v b = keeps a v b' :=
  h (.filter a v types) (mem_singleton_self _) i b b' hr

lemma FitsAll.keeps_eq (h : FitsAll R T cs) (hf : f ∈ cs.filterMap filter?) (hr : T i b b') :
    keeps f.1 f.2 b = keeps f.1 f.2 b' := by
  obtain ⟨c,hc,hf⟩ := mem_filterMap.1 hf
  cases c with
  | filter a v types =>
    cases hf
    exact (h.of_mem hc).keeps_eq hr
  | attr _ | connection _ _ _ | conj _ | disj _ | negation _ => cases hf

mutual

lemma stable_holdsAt (i : Nat) (start start' : Fields) :
    (c : Condition) → c.Fits R T → Stable (Grown (T i) start start') c.holdsAt
  | .attr _,h => (h.inStep i).stable start start'
  | .connection _ _ _,_ => of_throw _
  | .filter _ _ _,h =>
    get_bind (fun ⟨_,_,_,_,_,hr⟩ => by rw [h.keeps_eq hr]) fun _ => of_lift _
  | .conj cs,h => stable_holdAt true i start start' cs h
  | .disj cs,h => stable_holdAt false i start start' cs h
  | .negation c,h => (stable_holdsAt i start start' c h).bind fun _ => of_pure _

lemma stable_holdAt (all : Bool) (i : Nat) (start start' : Fields) :
    (cs : List Condition) → FitsAll R T cs → Stable (Grown (T i) start start') (holdAt all cs)
  | [],_ => of_pure _
  | c::cs,h => (stable_holdsAt i start start' c h.head).bind fun b => by
      split
      · exact stable_holdAt all i start start' cs h.tail
      · exact of_pure _

end

end Condition

/-- The attributes that runs read whatever their conditions ask. -/
def Net.ownKeys : List String := ["resource_type","block_type_","id_","file_path_","hash"]

lemma Net.includes_congr {g g' : Net} (h : ∀ k ∈ ownKeys, g.get? i k = g'.get? i k) (types : TypeNames) :
    types.includes (g.attributes i) = types.includes (g'.attributes i) := by
  have ht := h "resource_type" (by decide)
  unfold get? at ht
  rw [TypeNames.includes,TypeNames.includes,ht]

/-- Nets related so that runs read the same of both, by blocks that are related, and to which tests may add. -/
structure Pairing (R : Net → Net → Prop) (T : Nat → Fields → Fields → Prop) : Prop where
  size : ∀ {g g'}, R g g' → g.vertices.size = g'.vertices.size
  edges : ∀ {g g'}, R g g' → g.edges = g'.edges
  get? : ∀ {g g'}, R g g' → ∀ {k}, k ∈ ownKeys → ∀ i, g.get? i k = g'.get? i k
  isAmong : ∀ {g g'}, R g g' → ∀ i vs, g.isAmong i vs = g'.isAmong i vs
  data : ∀ {g g'}, R g g' → ∀ i, T i (g.data i) (g'.data i)
  store : ∀ {g g'}, R g g' → ∀ {i new new'}, Additions (g.data i) new → T i (g.data i ++ new) (g'.data i ++ new') →
    R (g.store i new) (g'.store i new')

namespace Pairing

variable {R : Net → Net → Prop} {T : Nat → Fields → Fields → Prop} (hR : Pairing R T) (h : R g g')

include hR h

lemma nodes_eq : g.nodes = g'.nodes := by rw [nodes,nodes,hR.size h]

lemma get_eq (hk : k ∈ Net.ownKeys) (i : Nat) : g.get i k = g'.get i k := by rw [Net.get,Net.get,hR.get? h hk]

lemma ofTypes_eq (types : TypeNames) (nodes : List Nat) : g.ofTypes types nodes = g'.ofTypes types nodes := by
  exact congrArg (filterM · nodes) (funext fun i => includes_congr (fun _ hk => hR.get? h hk i) types)

lemma typeOf_eq (i : Nat) : g.typeOf i = g'.typeOf i := by
  rw [typeOf,typeOf,hR.get? h (show "resource_type" ∈ ownKeys by decide)]

lemma blockType_eq (i : Nat) : g.get? i "block_type_" = g'.get? i "block_type_" :=
  hR.get? h (show "block_type_" ∈ ownKeys by decide) i

lemma concerns_eq (types : TypeNames) (i : Nat) : g.concerns types i = g'.concerns types i := by
  simp only [concerns,isJudged,hR.typeOf_eq h,hR.blockType_eq h]

lemma ends_eq (types connected : TypeNames) (nodes exclude : List Nat) :
    g.ends types connected nodes exclude = g'.ends types connected nodes exclude := by
  simp only [ends,hR.ofTypes_eq h,hR.isAmong h]

lemma out_eq (nodes : List Nat) (v : Nat) : g.out nodes v = g'.out nodes v := by rw [out,out,hR.edges h]

lemma walk_eq (nodes : List Nat) (n : Nat) (w : Net.Walk) : g.walk nodes n w = g'.walk nodes n w := by
  induction n generalizing w with
  | zero => rfl
  | succ n ih => simp only [walk,hR.out_eq h,ih]

lemma edgesInOrder_eq (nodes : List Nat) : g.edgesInOrder nodes = g'.edgesInOrder nodes := by
  simp only [edgesInOrder,hR.edges h,hR.walk_eq h]

lemma alongEdge_eq (e : Ends) (nodes : List Nat) (u v : Nat) : g.alongEdge e nodes u v = g'.alongEdge e nodes u v := by
  simp only [alongEdge,hR.isAmong h,hR.blockType_eq h,hR.out_eq h,hR.typeOf_eq h]

lemma concluded_eq (link : Link) (e : Ends) (o : Outcome) : g.concluded link e o = g'.concluded link e o := by
  simp only [concluded,hR.isAmong h]

lemma id_eq (i : Nat) : g.get i "id_" = g'.get i "id_" := hR.get_eq h (by decide) i

lemma file_eq (i : Nat) : g.get i "file_path_" = g'.get i "file_path_" := hR.get_eq h (by decide) i

lemma ids_eq (vs : List Nat) : g.ids vs = g'.ids vs := by simp only [ids,hR.id_eq h]

lemma withoutIds_eq (vs : List Nat) (ids : List Value) : g.withoutIds vs ids = g'.withoutIds vs ids := by
  simp only [withoutIds,hR.id_eq h]

lemma distinct_eq (kept : List ((Value × Value) × Nat)) (vs : List Nat) : g.distinct kept vs = g'.distinct kept vs := by
  induction vs generalizing kept with
  | nil => rfl
  | cons i vs ih =>
    simp only [distinct,hR.id_eq h,hR.file_eq h,ih]

lemma notPassed_eq (failed passed : List Nat) : g.notPassed failed passed = g'.notPassed failed passed := by
  simp only [notPassed,hR.ids_eq h,hR.id_eq h,hR.file_eq h]

lemma tallied_eq (passed failed : List Nat) (tallies : List Tally) :
    g.tallied passed failed tallies = g'.tallied passed failed tallies := by
  simp only [tallied,hR.ids_eq h,hR.id_eq h,hR.get_eq h (show "hash" ∈ ownKeys by decide)]

lemma reduced_eq (c : Condition) (nodes : List Nat) : g.reduced c nodes = g'.reduced c nodes := by
  simp only [reduced,hR.ofTypes_eq h,hR.typeOf_eq h,hR.blockType_eq h]

lemma filtered_eq (hcs : FitsAll R T cs) (vs : List Nat) : g.filtered cs vs = g'.filtered cs vs := by
  have hk := fun f hf i => hcs.keeps_eq (f := f) hf (hR.data h i)
  unfold filtered
  generalize cs.filterMap filter? = fs at hk
  induction fs generalizing vs with
  | nil => rfl
  | cons f fs ih =>
    obtain ⟨hf,hfs⟩ := forall_mem_cons.1 hk
    simp only [foldlM_cons,hf]
    exact bind_congr fun vs => ih vs hfs

lemma kept_eq (hcs : FitsAll R T cs) (o : Outcome) : g.kept cs o = g'.kept cs o := by
  simp only [kept,hR.filtered_eq h hcs,hR.distinct_eq h]

end Pairing

namespace Pairing

open Run

variable {R : Net → Net → Prop} {T : Nat → Fields → Fields → Prop} (hR : Pairing R T)

lemma stable_each {α : Type} {f : α → Run Outcome} {as : List α} (h : ∀ a ∈ as, Stable R (f a)) :
    Stable R (each f as) := by
  induction as with
  | nil => exact of_pure _
  | cons a as ih =>
    obtain ⟨ha,has⟩ := forall_mem_cons.1 h
    exact ha.bind fun _ => (ih has).bind fun _ => of_pure _

include hR

lemma stable_atVertex
    (ht : ∀ start start', Stable (Grown (T i) start start') test) : Stable R (atVertex i test) := by
  intro g g' h
  have hs : Grown (T i) (g.data i) (g'.data i) (g.data i) (g'.data i) := ⟨[],[],by simp,by simp,.nil _,hR.data h i⟩
  obtain ⟨ha,new,new',hl,hl',hn,hr⟩ := ht _ _ _ _ hs
  rw [exec_atVertex,exec_atVertex,hl,hl',drop_left,drop_left]
  rw [hl,hl'] at hr
  exact ⟨ha,hR.store h hn hr⟩

lemma stable_verdict (ht : (attr t).Fits R T) (i : Nat) : Stable R (verdict t i) := by
  refine ask (fun h => hR.concerns_eq h ..) fun b => ?_
  cases b with
  | false => exact of_pure _
  | true =>
    exact ((hR.stable_atVertex (ht.inStep i).stable).bind fun _ => of_pure _).tryCatch fun _ => of_pure _

lemma stable_single (ht : (attr t).Fits R T) (nodes : List Nat) : Stable R (single t nodes) :=
  stable_each fun i _ => (hR.stable_verdict ht i).bind fun _ => of_pure _

lemma stable_passing (hc : c.Fits R T) (nodes : List Nat) : Stable R (passing c nodes) := by
  induction nodes with
  | nil => exact of_pure _
  | cons i nodes ih =>
    refine (hR.stable_atVertex fun start start' => c.stable_holdsAt i start start' hc).bind fun _ => ?_
    exact ih.bind fun _ => of_pure _

lemma stable_combined (hc : c.Fits R T) (nodes : List Nat) : Stable R (combined c nodes) := by
  refine ask (fun h => hR.ofTypes_eq h ..) fun members => ?_
  refine (hR.stable_passing hc members).bind fun passed => ?_
  exact get_bind (fun h => by simp only [hR.isAmong h]) fun _ => of_pure _

lemma stable_alongEdge (hl : LinkClosed R) (e : Ends) (nodes : List Nat) (u v : Nat) :
    Stable R (Run.alongEdge e nodes u v) := by
  refine ask (fun h => hR.alongEdge_eq h ..) fun p => ?_
  obtain ⟨o,found⟩ := p
  cases found with
  | false => exact of_pure _
  | true => exact (of_modify fun g g' h => hl g g' h v u).bind fun _ => of_pure _

lemma stable_alongEdges (hl : LinkClosed R) (e : Ends) (nodes : List Nat) (es : List (Nat × Nat)) :
    Stable R (alongEdges e nodes es) :=
  stable_each fun edge _ => hR.stable_alongEdge hl e nodes edge.1 edge.2

lemma stable_connection (hl : LinkClosed R) (link : Link) (e : Ends) (nodes : List Nat) :
    Stable R (connection link e nodes) := by
  refine get_bind (fun h => by rw [hR.edgesInOrder_eq h]) fun g => ?_
  refine (hR.stable_alongEdges hl e nodes _).bind fun o => ?_
  exact get_bind (fun h => by rw [hR.concluded_eq h]) fun _ => of_pure _

lemma stable_alone (hc : c.Fits R T) (nodes : List Nat) : Stable R (alone c nodes) := by
  cases c with
  | attr t => exact hR.stable_single hc nodes
  | filter _ _ _ => exact of_pure _
  | connection _ _ _ | conj _ | disj _ | negation _ =>
    simp only [alone]
    split
    · exact of_pure _
    · exact hR.stable_combined hc nodes

lemma stable_unconnected (hcs : FitsAll R T cs) (nodes : List Nat) : Stable R (unconnected cs nodes) :=
  stable_each fun _ hc => hR.stable_alone (hcs.of_mem hc) nodes

mutual

lemma stable_connect : (c : Condition) → c.Fits R T → ∀ nodes exclude, Stable R (connect c nodes exclude)
  | .connection link types connected,hc,nodes,exclude => by
    rw [connect]
    refine ask (fun h => hR.ends_eq h ..) fun e => ?_
    exact hR.stable_connection hc.linkClosed link e nodes
  | .conj cs,hc,nodes,_ => by
    rw [connect]
    refine ask (fun h => hR.ofTypes_eq h ..) fun members => ?_
    split
    · exact of_pure _
    refine (hR.stable_unconnected hc nodes).bind fun o => ?_
    refine ask (fun h => hR.ids_eq h ..) fun failedIds => ?_
    refine ask (fun h => hR.withoutIds_eq h ..) fun passed => ?_
    refine (of_lift _).bind fun types => ?_
    refine (stable_connectAll cs hc types false nodes _).bind fun early => ?_
    refine (stable_connectAll cs hc types true nodes _).bind fun late => ?_
    refine ask (fun h => hR.withoutIds_eq h ..) fun passed => ?_
    exact get_bind (fun h => by rw [hR.kept_eq h hc]) fun g => of_lift _
  | .disj cs,hc,nodes,_ => by
    rw [connect]
    refine (hR.stable_unconnected hc nodes).bind fun o => ?_
    refine ask (fun h => hR.notPassed_eq h ..) fun failed => ?_
    refine (stable_connectAny cs hc nodes _).bind fun acc => ?_
    refine get_bind (fun h => by simp only [hR.isAmong h,hR.notPassed_eq h,hR.kept_eq h hc]) fun g => ?_
    exact (of_lift _).bind fun failed => of_lift _
  | .attr _,_,_,_ | .filter _ _ _,_,_,_ | .negation _,_,_,_ => by
    simp only [connect]
    exact of_pure _

lemma stable_connectAll : (cs : List Condition) → FitsAll R T cs →
    ∀ types late nodes acc, Stable R (connectAll cs types late nodes acc)
  | [],_,_,_,_,_ => by
    rw [connectAll]
    exact of_pure _
  | c::cs,hcs,types,late,nodes,(o,failedIds) => by
    rw [connectAll]
    split
    · refine (stable_connect c hcs.head nodes _).bind fun p => ?_
      refine ask (fun h => hR.ids_eq h ..) fun ids => ?_
      exact stable_connectAll cs hcs.tail types late nodes _
    · exact stable_connectAll cs hcs.tail types late nodes _

lemma stable_connectAny : (cs : List Condition) → FitsAll R T cs →
    ∀ nodes acc, Stable R (connectAny cs nodes acc)
  | [],_,_,_ => by
    rw [connectAny]
    exact of_pure _
  | c::cs,hcs,nodes,(passed,tallies) => by
    rw [connectAny]
    split
    · refine (stable_connect c hcs.head nodes _).bind fun o => ?_
      refine get_bind (fun h => by simp only [hR.tallied_eq h]) fun g => ?_
      exact (of_lift _).bind fun _ => stable_connectAny cs hcs.tail nodes _
    · exact stable_connectAny cs hcs.tail nodes _

end

lemma stable_policy (hc : c.Fits R T) : Stable R (policy c) := by
  refine get_bind (fun h => by simp only [hR.nodes_eq h,hR.ends_eq h,hR.reduced_eq h]) fun g => ?_
  cases c with
  | filter _ _ _ => exact of_throw _
  | connection link types connected =>
    refine (of_lift _).bind fun e => (of_lift _).bind fun nodes => ?_
    exact hR.stable_connection hc.linkClosed link e nodes
  | attr _ | conj _ | disj _ | negation _ =>
    dsimp only
    split
    · exact (of_lift _).bind fun nodes => hR.stable_connect _ hc nodes []
    · exact hR.stable_alone hc _

end Pairing

end InfraAudit.Policy
