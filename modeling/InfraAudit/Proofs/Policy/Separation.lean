import InfraAudit.Proofs.Policy.Beside
import InfraAudit.Proofs.Policy.Exchange

/-!
What a net beside another does to a policy on connections: nothing, if ids and hashes tell all blocks apart, and if the
resource types of the policy that stand in the second net stand in the first too.
-/

namespace InfraAudit.Policy

open List Tally Run Condition Net

open Net (Continued)

variable {c : Condition} {e : Ends} {nodes all : List Nat}
  {g u h k u' : Net}

lemma Net.Continued.lt_size (hc : Continued g h k u) (hi : i ∈ g.nodes) :
    i < k.vertices.size ∧ i < u.vertices.size := by
  have hw : i ∈ (g.beside h).nodes := nodes_beside hi
  rw [hc.left.size,hc.whole.size]
  exact ⟨mem_range.1 hi,mem_range.1 hw⟩

/-- The blocks of the first net are the same in both, with the blocks they are linked to. -/
structure SameBlocks (g h k u : Net) : Prop extends Continued g h k u where
  vertices : ∀ i ∈ g.nodes, k.vertices.getD i default = u.vertices.getD i default
  links : ∀ i ∈ g.nodes, ∀ j, (k.vertices.getD i default).linked = some j → j ∈ g.nodes

namespace Run

section

variable {α β α' β' : Type} {rel : α → β → Prop} {rel' : α' → β' → Prop}

/-- Where the second gives a result, the first gives a related one, and both leave related nets. -/
def Covers (g h : Net) (rel : α → β → Prop) (k u : Net) (x : Run α) (y : Run β) : Prop :=
  ∀ b u', exec y u = (.ok b,u') → ∃ a k', exec x k = (.ok a,k') ∧ rel a b ∧ SameBlocks g h k' u'

abbrev CoversPart (g h : Net) : Net → Net → Run Outcome → Run Outcome → Prop :=
  Covers g h fun o o' => o = g.verdicts o'

lemma covers_pure (hk : SameBlocks g h k u) (hab : rel a b) : Covers g h rel k u (pure a) (pure b) := by
  intro b' u' hr
  cases hr
  exact ⟨a,k,rfl,hab,hk⟩

variable {f : α → Run α'} {f' : β → Run β'} {r : Result α} {r' : Result β}

lemma Covers.bind (hxy : Covers g h rel k u x y)
    (hf : ∀ a b k' u', exec y u = (.ok b,u') → rel a b → SameBlocks g h k' u' → Covers g h rel' k' u' (f a) (f' b)) :
    Covers g h rel' k u (x >>= f) (y >>= f') := by
  intro b' u'' hrn
  obtain ⟨b,u',hy,hr⟩ := exec_bind_eq_ok.1 hrn
  obtain ⟨a,k',hx,hab,hk'⟩ := hxy b u' hy
  obtain ⟨a',k'',hx',hab',hk''⟩ := hf a b k' u' hy hab hk' b' u'' hr
  exact ⟨a',k'',exec_bind_eq_ok.2 ⟨a,k',hx,hx'⟩,hab',hk''⟩

lemma covers_get_bind {f : Net → Run α} {f' : Net → Run β} (hf : Covers g h rel k u (f k) (f' u)) :
    Covers g h rel k u (get >>= f) (get >>= f') := by
  intro b u' hr
  rw [exec_get_bind] at hr ⊢
  exact hf b u' hr

lemma covers_lift_bind (hf : ∀ b, r' = .ok b → ∃ a, r = .ok a ∧ Covers g h rel' k u (f a) (f' b)) :
    Covers g h rel' k u (liftM r >>= f) (liftM r' >>= f') := by
  intro b' u' hrn
  obtain ⟨b,hb,hr⟩ := exec_lift_bind_eq_ok.1 hrn
  obtain ⟨a,ha,hc⟩ := hf b hb
  obtain ⟨a',k',hx,hab,hk'⟩ := hc b' u' hr
  exact ⟨a',k',exec_lift_bind_eq_ok.2 ⟨a,ha,hx⟩,hab,hk'⟩

lemma covers_ok_bind (hr : r = .ok a)
    (hr' : r' = .ok b) (hf : Covers g h rel' k u (f a) (f' b)) : Covers g h rel' k u (liftM r >>= f) (liftM r' >>= f') := by
  refine covers_lift_bind fun b' hb' => ⟨a,hr,?_⟩
  cases hr'.symm.trans hb'
  exact hf

lemma covers_lift (hk : SameBlocks g h k u) (hr : ∀ b, r' = .ok b → ∃ a, r = .ok a ∧ rel a b) :
    Covers g h rel k u (liftM r) (liftM r') := by
  intro b u' hrn
  rw [exec_lift] at hrn
  cases hrn
  obtain ⟨a,ha,hab⟩ := hr b rfl
  exact ⟨a,k,by rw [exec_lift,ha],hab,hk⟩

lemma covers_aside {γ : Type} {rel' : α → β' → Prop} {x : Run α} {y : Run γ} {z : Run β} {f : γ → β → β'}
    (hz : ∀ c u', exec y u = (.ok c,u') → Covers g h rel k u' x z ∧ ∀ a b, rel a b → rel' a (f c b)) :
    Covers g h rel' k u x (do
      let c ← y
      return f c (← z)) := by
  intro b' u'' hrn
  obtain ⟨c,u',hy,hrn⟩ := exec_bind_eq_ok.1 hrn
  obtain ⟨b,u₁,hr,hp⟩ := exec_bind_eq_ok.1 hrn
  cases hp
  obtain ⟨hc,hrl⟩ := hz c u' hy
  obtain ⟨a,k',hx,hab,hk'⟩ := hc b u'' hr
  exact ⟨a,k',hx,hrl a b hab,hk'⟩

/-- What lies in the net is covered one by one, and the rest says nothing of it. -/
lemma covers_each {γ : Type} {f f' : γ → Run Outcome} {p : γ → Bool} {as : List γ}
    (hin : ∀ a ∈ as, p a → ∀ {k u}, SameBlocks g h k u → CoversPart g h k u (f a) (f' a))
    (hout : ∀ a ∈ as, p a = false → ∀ {k u}, SameBlocks g h k u → ∀ {o u'}, exec (f' a) u = (.ok o,u') → g.verdicts o = {} ∧ SameBlocks g h k u')
    (hk : SameBlocks g h k u) : CoversPart g h k u (each f (as.filter p)) (each f' as) := by
  induction as generalizing k u with
  | nil => exact covers_pure hk rfl
  | cons a as ih =>
    obtain ⟨hin,hins⟩ := forall_mem_cons.1 hin
    obtain ⟨hout,houts⟩ := forall_mem_cons.1 hout
    cases hp : p a with
    | true =>
      rw [filter_cons_of_pos hp,each,each]
      refine (hin hp hk).bind fun o o' k' u' _ ho hk' => ?_
      refine (ih hins houts hk').bind fun q q' k'' u'' _ hq hk'' => covers_pure hk'' ?_
      rw [ho,hq,verdicts_append]
    | false =>
      rw [filter_cons_of_neg (by simp [hp]),each]
      refine covers_aside fun o u' hr => ⟨ih hins houts (hout hp hk hr).2,fun q q' hq => ?_⟩
      rw [verdicts_append,(hout hp hk hr).1,hq]
      rfl

end

end Run

lemma exec_attempt (x : Run Bool) (g : Net) :
    exec (tryCatch (do return some (← x)) fun _ => return none : Run (Option Bool)) g =
      (.ok (exec x g).1.toOption,(exec x g).2) := by
  rw [exec_tryCatch,exec_bind]
  generalize exec x g = p
  obtain ⟨answer,k⟩ := p
  cases answer <;> rfl

lemma Condition.exists_additions (c : Condition) (b : Fields) :
    ∃ new, (exec c.holdsAt b).2 = b ++ new ∧ Additions b new := by
  have hs := c.stable_holdsAt 0 b b fun d _ => d.fitsAlone_extends default
  obtain ⟨-,new,-,hn,-,ha,-⟩ := hs b b ⟨[],[],by simp,by simp,.nil b,rfl⟩
  exact ⟨new,hn,ha⟩

namespace Tally

variable {f : Nat → Value} {p : Nat → Bool} {nodes : List Nat}

lemma filter_foldl_enter (hf : ∀ i ∈ nodes, ∀ j ∈ nodes, p i → p j = false → (f j == f i) = false)
    {l : List Nat} (hl : ∀ i ∈ l, i ∈ nodes) {es : List (Value × Nat)} (hes : ∀ e ∈ es, e.2 ∈ nodes ∧ e.1 = f e.2) :
    (l.foldl (fun es i => enter (f i) i es) es).filter (fun e => p e.2) =
        (l.filter p).foldl (fun es i => enter (f i) i es) (es.filter fun e => p e.2) ∧
      ∀ e ∈ l.foldl (fun es i => enter (f i) i es) es, e.2 ∈ nodes ∧ e.1 = f e.2 := by
  induction l generalizing es with
  | nil => exact ⟨rfl,hes⟩
  | cons i l ih =>
    obtain ⟨hi,hl⟩ := forall_mem_cons.1 hl
    have hkn : ∀ e ∈ enter (f i) i es, e.2 ∈ nodes ∧ e.1 = f e.2 := by
      unfold enter
      split
      · exact hes
      · exact forall_mem_append.2 ⟨hes,forall_mem_singleton.2 ⟨hi,rfl⟩⟩
    obtain ⟨hfl,hr⟩ := ih hl hkn
    refine ⟨?_,hr⟩
    rw [foldl_cons,hfl]
    cases hp : p i with
    | false =>
      have hg : (enter (f i) i es).filter (fun e => p e.2) = es.filter fun e => p e.2 := by
        unfold enter
        split
        · rfl
        · simp [filter_append,hp]
      rw [filter_cons_of_neg (by simp [hp]),hg]
    | true =>
      -- An entry of the other side is not taken for this one.
      have ha : (es.filter fun e => p e.2).any (·.1 == f i) = es.any (·.1 == f i) := by
        rw [Bool.eq_iff_iff,any_filter,any_eq_true,any_eq_true]
        refine ⟨fun ⟨e,he,heq⟩ => ⟨e,he,(Bool.and_eq_true _ _ ▸ heq).2⟩,fun ⟨e,he,heq⟩ => ⟨e,he,?_⟩⟩
        obtain ⟨hin,hd⟩ := hes e he
        cases hs : p e.2 with
        | true => simpa using heq
        | false =>
          have hne := hf i hi e.2 hin hp hs
          rw [← hd,heq] at hne
          cases hne
      have hkp : (enter (f i) i es).filter (fun e => p e.2) = enter (f i) i (es.filter fun e => p e.2) := by
        rw [enter,enter,ha]
        split
        · rfl
        · simp [filter_append,hp]
      rw [filter_cons_of_pos hp,hkp,foldl_cons]

end Tally

mutual

/-- The parts that give no verdicts where no block is of their resource types. -/
def Condition.guards : Condition → List Condition
  | .conj cs => .conj cs :: guardsOf cs
  | .disj cs => guardsOf cs
  | _ => []

def Condition.guardsOf : List Condition → List Condition
  | [] => []
  | c::cs => (if c.isConnected then guards c else []) ++ guardsOf cs

end

lemma Condition.guardsOf_cons {P : Condition → Prop} (h : ∀ d ∈ guardsOf (c::cs), P d) :
    (c.isConnected → ∀ d ∈ c.guards, P d) ∧ ∀ d ∈ guardsOf cs, P d :=
  ⟨fun hc d hd => h d (mem_append_left _ (by rwa [if_pos hc])),fun d hd => h d (mem_append_right _ hd)⟩

def Net.Represents (g u : Net) (nodes : List Nat) (c : Condition) : Prop :=
  ∀ vs, u.ofTypes c.endTypes.1 nodes = .ok vs → g.part vs = [] → vs = []

lemma Net.Represents.isEmpty_eq (h : g.Represents u nodes c)
    (hvs : u.ofTypes c.endTypes.1 nodes = .ok vs) : (g.part vs).isEmpty = vs.isEmpty := by
  rw [Bool.eq_iff_iff,List.isEmpty_iff,List.isEmpty_iff]
  refine ⟨h vs hvs,fun hn => ?_⟩
  rw [hn]
  rfl

lemma Net.Continued.reduced_part (hc : Continued g h k u)
    (hr : g.Represents u all c) (hnodes : u.reduced c all = .ok nodes) : k.reduced c (g.part all) = .ok (g.part nodes) := by
  rw [reduced] at hnodes ⊢
  obtain ⟨members,hm,hnodes⟩ := bind_eq_ok.1 hnodes
  refine bind_eq_ok.2 ⟨_,hc.ofTypes_part hm,?_⟩
  rw [hr.isEmpty_eq hm]
  split at hnodes
  · next hn =>
    cases hnodes
    rw [if_pos hn]
    rfl
  · next hs =>
    cases hnodes
    rw [if_neg hs]
    refine congrArg Except.ok (part_filter fun i _ hi => ?_).symm
    rw [hc.typeOf_eq hi,hc.own_eq (by decide) hi]

namespace SameBlocks

structure Verdicts (g h : Net) (nodes : List Nat) (acc acc' : Outcome × List Value) : Prop where
  part : acc.1 = g.verdicts acc'.1
  within : acc'.1.Within nodes
  ids : acc.2 = acc.1.failed.map (g.label "id_")
  ids' : acc'.2 = acc'.1.failed.map ((g.beside h).label "id_")

structure Findings (g h : Net) (nodes : List Nat) (acc acc' : List Nat × List Tally) : Prop where
  part : acc.1 = g.part acc'.1
  within : ∀ i ∈ acc'.1, i ∈ nodes
  tallies : entries acc.2 = (entries acc'.2).filter fun e => g.nodes.contains e.2
  known : ∀ e ∈ entries acc'.2, e.2 ∈ nodes ∧ e.1 = (g.beside h).label "hash" e.2

lemma start (hapart : g.Apart h) : SameBlocks g h g (g.beside h) :=
  ⟨⟨.refl g,.refl _⟩,fun _ hi => (vertex_beside hi).symm,hapart.links⟩

section

variable (hs : SameBlocks g h k u)

include hs

lemma data_eq (hi : i ∈ g.nodes) : k.data i = u.data i := by
  unfold data
  generalize linkDepth = n
  have ha : ∀ j ∈ g.nodes, k.attributes j = u.attributes j := fun j hj => by
    rw [attributes,attributes,hs.vertices j hj]
  induction n generalizing i with
  | zero => exact ha i hi
  | succ n ih =>
    rw [dataWithin,dataWithin,hs.vertices i hi,ha i hi]
    split
    · next j hj => rw [ih (hs.links i hi j (hs.vertices i hi ▸ hj))]
    · rfl

lemma modify (hc : Continued g h k' u') (f : Vertex → Vertex) (hu : u'.vertices = u.vertices.modify i f)
    (hk : i ∈ g.nodes ∧ k'.vertices = k.vertices.modify i f ∨ i ∉ g.nodes ∧ k' = k)
    (hl : i ∈ g.nodes → ∀ v j, (f v).linked = some j → v.linked = some j ∨ j ∈ g.nodes) : SameBlocks g h k' u' := by
  have hsz : ∀ j ∈ g.nodes, j < k.vertices.size ∧ j < u.vertices.size := fun _ => hs.toContinued.lt_size
  have hw : ∀ j ∈ g.nodes, u'.vertices.getD j default =
      if i = j then f (u.vertices.getD j default) else u.vertices.getD j default := by
    intro j hj
    simp only [hu,getD_modify,(hsz j hj).2,and_true]
  have hlf : ∀ j ∈ g.nodes, k'.vertices.getD j default =
      if i = j then f (k.vertices.getD j default) else k.vertices.getD j default := by
    intro j hj
    rcases hk with ⟨-,hk⟩ | ⟨hi,rfl⟩
    · simp only [hk,getD_modify,(hsz j hj).1,and_true]
    · have hij : i ≠ j := fun hij => hi (hij ▸ hj)
      rw [if_neg hij]
  refine ⟨hc,fun j hj => ?_,fun j hj j' hln => ?_⟩
  · rw [hlf j hj,hw j hj,hs.vertices j hj]
  · rw [hlf j hj] at hln
    split at hln
    · next hij =>
      subst hij
      exact (hl hj _ _ hln).elim (hs.links i hj j') id
    · exact hs.links j hj j' hln

lemma link (hi : i ∈ g.nodes) (hj : j ∈ g.nodes) : SameBlocks g h (k.link j i) (u.link j i) := by
  refine hs.modify ⟨hs.left.link j i,hs.whole.link j i⟩ (fun v => {v with linked := some i}) rfl (.inl ⟨hj,rfl⟩)
    fun _ _ j' hj' => ?_
  obtain rfl := Option.some.inj hj'
  exact .inr hi

lemma linkBeside (hj : j ∉ g.nodes) (i : Nat) : SameBlocks g h k (u.link j i) :=
  hs.modify ⟨hs.left,hs.whole.link j i⟩ (fun v => {v with linked := some i}) rfl (.inr ⟨hj,rfl⟩) fun hin => (hj hin).elim

lemma atVertex_part (c : Condition) (hi : i ∈ g.nodes) :
    (exec (atVertex i c.holdsAt) k).1 = (exec (atVertex i c.holdsAt) u).1 ∧
      SameBlocks g h (exec (atVertex i c.holdsAt) k).2 (exec (atVertex i c.holdsAt) u).2 := by
  obtain ⟨new,hl,hn⟩ := c.exists_additions (u.data i)
  rw [exec_atVertex,exec_atVertex,hs.data_eq hi,hl,drop_left]
  refine ⟨rfl,hs.modify ⟨hs.left.store (hs.data_eq hi ▸ hn),hs.whole.store hn⟩
    (fun v => {v with attributes := v.attributes ++ new}) rfl (.inl ⟨hi,rfl⟩) fun _ _ _ hj => .inl hj⟩

lemma atVertex_beside (c : Condition) (hi : i ∉ g.nodes) : SameBlocks g h k (exec (atVertex i c.holdsAt) u).2 := by
  obtain ⟨new,hl,hn⟩ := c.exists_additions (u.data i)
  rw [exec_atVertex,hl,drop_left]
  exact hs.modify ⟨hs.left,hs.whole.store hn⟩ (fun v => {v with attributes := v.attributes ++ new}) rfl
    (.inr ⟨hi,rfl⟩) fun hin => (hi hin).elim

end

section

variable (hk : SameBlocks g h k u)

include hk

lemma covers_verdict (t : AttributeTest) (hi : i ∈ g.nodes) : Covers g h Eq k u (verdict t i) (verdict t i) := by
  refine covers_get_bind (covers_lift_bind fun b hb => ⟨b,?_,?_⟩)
  · rw [hk.toContinued.concerns_eq t.types hi,hb]
  cases b with
  | false => exact covers_pure hk rfl
  | true =>
    intro verdict u' hr
    obtain ⟨ha,hl⟩ := hk.atVertex_part (.attr t) hi
    rw [if_pos rfl,exec_attempt] at hr
    cases hr
    exact ⟨_,_,exec_attempt _ k,congrArg Except.toOption ha,hl⟩

lemma verdict_beside (hi : i ∉ g.nodes) {verdict : Option Bool}
    (hr : exec (Run.verdict t i) u = (.ok verdict,u')) : SameBlocks g h k u' := by
  rw [Run.verdict,exec_get_bind] at hr
  obtain ⟨b,-,hr⟩ := exec_lift_bind_eq_ok.1 hr
  cases b with
  | false =>
    cases hr
    exact hk
  | true =>
    rw [if_pos rfl,exec_attempt] at hr
    cases hr
    exact hk.atVertex_beside (.attr t) hi

omit hk in
lemma covers_single (t : AttributeTest) (nodes : List Nat) (hk : SameBlocks g h k u) :
    CoversPart g h k u (single t (g.part nodes)) (single t nodes) := by
  refine covers_each (fun i _ hi k u hk => ?_) (fun i _ hi k u hk o u' hr => ?_) hk
  · have hi := contains_iff_mem.1 hi
    refine (hk.covers_verdict t hi).bind fun b b' k' u' _ hb hk' => covers_pure hk' ?_
    rw [hb,verdicts_of,if_pos hi]
  · have hi : i ∉ g.nodes := by simpa using hi
    obtain ⟨b,_,hb,hr⟩ := exec_bind_eq_ok.1 hr
    cases hr
    exact ⟨by rw [verdicts_of,if_neg hi],hk.verdict_beside hi hb⟩

omit hk in
lemma covers_passing (c : Condition) (nodes : List Nat) (hk : SameBlocks g h k u) :
    Covers g h (fun vs vs' => vs = g.part vs') k u (passing c (g.part nodes)) (passing c nodes) := by
  induction nodes generalizing k u with
  | nil => exact covers_pure hk rfl
  | cons i nodes ih =>
    by_cases hi : i ∈ g.nodes
    · obtain ⟨ha,hl⟩ := hk.atVertex_part c hi
      rw [part_cons_of_mem hi,passing,passing]
      have hf : Covers g h Eq k u (atVertex i c.holdsAt) (atVertex i c.holdsAt) := by
        intro b u' hr
        rw [hr] at ha hl
        exact ⟨b,(exec (atVertex i c.holdsAt) k).2,Prod.ext ha rfl,rfl,hl⟩
      refine hf.bind fun b b' k' u' _ hb hk' => ?_
      subst hb
      refine (ih hk').bind fun vs vs' k'' u'' _ hvs hk'' => covers_pure hk'' ?_
      cases b with
      | false => exact hvs
      | true => exact (congrArg (i :: ·) hvs).trans (part_cons_of_mem hi vs').symm
    · rw [part_cons_of_not_mem hi,passing]
      have hk' := hk.atVertex_beside c hi
      refine covers_aside fun b u' hr => ⟨ih (by rwa [hr] at hk'),fun vs vs' hvs => ?_⟩
      cases b with
      | false => exact hvs
      | true => exact hvs.trans (part_cons_of_not_mem hi vs').symm

variable (hapart : g.Apart h)

include hapart

lemma covers_combined (c : Condition) (nodes : List Nat) :
    CoversPart g h k u (combined c (g.part nodes)) (combined c nodes) := by
  refine covers_get_bind (covers_lift_bind fun members hm => ?_)
  refine ⟨_,hk.toContinued.ofTypes_part hm,?_⟩
  refine (covers_passing c members hk).bind fun vs vs' k' u' _ hvs hk' => covers_get_bind ?_
  refine covers_pure hk' ?_
  subst hvs
  simp only [verdicts,hk'.toContinued.isAmong_left hapart,hk'.toContinued.isAmong_whole hapart,part_filter_not]

lemma covers_alone (c : Condition) (nodes : List Nat) :
    CoversPart g h k u (alone c (g.part nodes)) (alone c nodes) := by
  cases c with
  | attr t => exact covers_single t nodes hk
  | filter _ _ _ => exact covers_pure hk rfl
  | connection _ _ _ | conj _ | disj _ | negation _ =>
    simp only [alone]
    split
    · exact covers_pure hk rfl
    · exact hk.covers_combined hapart _ nodes

omit hk in
lemma covers_unconnected (cs : List Condition) (nodes : List Nat)
    (hk : SameBlocks g h k u) : CoversPart g h k u (unconnected cs (g.part nodes)) (unconnected cs nodes) := by
  have hcv := covers_each (p := fun _ => true) (fun c (_ : c ∈ cs) _ k u hk => hk.covers_alone hapart c nodes)
    (fun _ _ hc => nomatch hc) hk
  rwa [filter_true] at hcv

lemma covers_alongEdge (he : (g.beside h).AllEnds all e)
    (hnodes : nodes ⊆ all) (hed : (i,j) ∈ g.edges) (hi : i ∈ nodes) :
    CoversPart g h k u (alongEdge (g.partEnds e) (g.part nodes) i j) (alongEdge e nodes i j) := by
  have hc := hk.toContinued
  obtain ⟨hin,hjn⟩ := hapart.closed _ hed
  refine covers_get_bind (covers_lift_bind fun p hp => ⟨p,hc.alongEdge_part hapart he hnodes hed hi hp,?_⟩)
  obtain ⟨o,found⟩ := p
  obtain ⟨hps,hfl⟩ := forall_alongEdge hin hjn (fun _ hf => (hc.mem_nodes_iff hapart.closed hf).2 hjn) hp
  have ho : o = g.verdicts o := by rw [verdicts,part_eq_self hps,part_eq_self hfl]
  cases found with
  | false => exact covers_pure hk ho
  | true =>
    intro o' u' hr
    cases hr
    exact ⟨o,k.link j i,rfl,ho,hk.link hin hjn⟩

omit hapart in
lemma alongEdge_beside (hg : g.Closed) (hi : i ∉ g.nodes) (hj : j ∉ g.nodes)
    (hr : exec (Run.alongEdge e nodes i j) u = (.ok o,u')) : g.verdicts o = {} ∧ SameBlocks g h k u' := by
  have hc := hk.toContinued
  obtain ⟨b,ha,rfl⟩ := exec_alongEdge_eq_ok hr
  have hot : ∀ f ∈ u.out nodes j, f.2 ∉ g.nodes := fun _ hf => mt (hc.mem_nodes_iff hg hf).1 hj
  obtain ⟨hp,hfl⟩ := forall_alongEdge (P := (· ∉ g.nodes)) hi hj hot ha
  refine ⟨by rw [verdicts,part_eq_nil hp,part_eq_nil hfl],?_⟩
  split
  · exact hk.linkBeside hj i
  · exact hk

omit hk in
lemma covers_alongEdges (he : (g.beside h).AllEnds all e)
    (hnodes : nodes ⊆ all) {es : List (Nat × Nat)} (hes : ∀ f ∈ es, f ∈ (g.beside h).edges ∧ f.1 ∈ nodes) (hk : SameBlocks g h k u) :
    CoversPart g h k u (alongEdges (g.partEnds e) (g.part nodes) (es.filter fun f => g.nodes.contains f.1))
      (alongEdges e nodes es) := by
  refine covers_each (fun f hf hin k u hk => ?_) (fun f hf hin k u hk o u' hr => ?_) hk
  · rcases hapart.closed.edges_beside (hes f hf).1 with ⟨how,-,-⟩ | ⟨hnin,-⟩
    · exact hk.covers_alongEdge hapart he hnodes how (hes f hf).2
    · exact absurd (contains_iff_mem.1 hin) hnin
  · rcases hapart.closed.edges_beside (hes f hf).1 with ⟨-,hi,-⟩ | ⟨hi,hj⟩
    · simp [hi] at hin
    · exact hk.alongEdge_beside hapart.closed hi hj hr

lemma covers_connection (link : Link) (he : (g.beside h).AllEnds all e) (hnodes : nodes ⊆ all) :
    CoversPart g h k u (connection link (g.partEnds e) (g.part nodes)) (connection link e nodes) := by
  have hc := hk.toContinued
  have hes : ∀ f ∈ u.edgesInOrder nodes, f ∈ (g.beside h).edges ∧ f.1 ∈ nodes := fun f hf =>
    ⟨hc.whole.edges ▸ (mem_edgesInOrder.1 hf).1,(mem_edgesInOrder.1 hf).2.1⟩
  refine covers_get_bind ?_
  rw [← hc.edgesInOrder_eq hapart.closed]
  refine (covers_alongEdges hapart he hnodes hes hk).bind fun o o' k' u' _ ho hk' => covers_get_bind ?_
  refine covers_pure hk' ?_
  rw [ho,hk'.toContinued.concluded_part hapart]

omit hapart in
lemma filtered_part (hws : u.filtered cs vs = .ok ws) : k.filtered cs (g.part vs) = .ok (g.part ws) := by
  unfold filtered at hws ⊢
  generalize cs.filterMap filter? = fs at hws ⊢
  induction fs generalizing vs with
  | nil =>
    cases hws
    rfl
  | cons f fs ih =>
    rw [foldlM_cons] at hws ⊢
    obtain ⟨mid,hm,hws⟩ := bind_eq_ok.1 hws
    exact bind_eq_ok.2 ⟨_,filterM_part (fun i _ hi => by rw [hk.data_eq hi]) hm,ih hws⟩

lemma kept_part (hnodes : nodes ⊆ (g.beside h).nodes) (ho : o.Within nodes) (hkp : u.kept cs o = .ok o') :
    k.kept cs (g.verdicts o) = .ok (g.verdicts o') := by
  have hc := hk.toContinued
  have hl := hapart.left.of_extends hc.left
  have hw := hapart.labelled.of_extends hc.whole
  rw [kept] at hkp
  obtain ⟨ps,hps,hkp⟩ := bind_eq_ok.1 hkp
  obtain ⟨fs,hfs,hkp⟩ := bind_eq_ok.1 hkp
  have hkn : ∀ {vs ws : List Nat}, u.filtered cs vs = .ok ws → (∀ i ∈ vs, i ∈ nodes) → ∀ i ∈ ws, i ∈ u.nodes :=
    fun hws hvs i hi => hc.whole.nodes_eq ▸ hnodes (hvs i (subset_of_filtered hws hi))
  have hkn' : ∀ {ws : List Nat}, ∀ i ∈ g.part ws, i ∈ k.nodes := fun i hi => hc.left.nodes_eq ▸ g.part_subset _ hi
  rw [hw.distinct_eq (hkn hps ho.passed),hw.distinct_eq (hkn hfs ho.failed)] at hkp
  cases hkp
  rw [kept,verdicts,hk.filtered_part hps,hk.filtered_part hfs]
  simp only [ok_bind,hl.distinct_eq hkn',verdicts,part_eraseDups]
  rfl

omit hk in
lemma Findings.tallied (hnodes : nodes ⊆ (g.beside h).nodes)
    (ha : Findings g h nodes acc acc') (ho : o.Within nodes) (hc : Continued g h k u) :
    ∃ ts ts', k.tallied (acc.1 ++ (g.verdicts o).passed) (g.verdicts o).failed acc.2 = .ok ts ∧
      u.tallied (acc'.1 ++ o.passed) o.failed acc'.2 = .ok ts' ∧
      Findings g h nodes (acc.1 ++ (g.verdicts o).passed,ts) (acc'.1 ++ o.passed,ts') := by
  have hp : acc.1 ++ (g.verdicts o).passed = g.part (acc'.1 ++ o.passed) := by
    rw [ha.part,part_append]
    rfl
  have hin : ∀ i ∈ acc'.1 ++ o.passed, i ∈ nodes := forall_mem_append.2 ⟨ha.within,ho.passed⟩
  have how : ∀ {vs : List Nat}, ∀ i ∈ g.part vs, i ∈ g.nodes := fun _ hi => g.part_subset _ hi
  have ht : ∀ i ∈ nodes, ∀ j ∈ nodes, g.nodes.contains i = true → g.nodes.contains j = false →
      ((g.beside h).label "hash" j == (g.beside h).label "hash" i) = false := by
    intro i _ j hj hi hjn
    refine hapart.hash_ne (contains_iff_mem.1 hi) (hnodes hj) fun hm => ?_
    rw [contains_iff_mem.2 hm] at hjn
    cases hjn
  have hf : ∀ i ∈ o.failed.filter fun i => !(acc'.1 ++ o.passed).contains i, i ∈ nodes := fun i hi =>
    ho.failed i (mem_of_mem_filter hi)
  obtain ⟨hfl,hkn⟩ := filter_foldl_enter ht hf ha.known
  rw [hp]
  refine ⟨_,_,tallied_after hapart.left (Subset.refl _) hc.left how how acc.2,
    tallied_after hapart.labelled hnodes hc.whole hin ho.failed acc'.2,rfl,hin,?_,?_⟩
  · rw [entries_foldl,entries_foldl,hfl,ha.tallies]
    show ((g.part o.failed).filter fun i => !(g.part (acc'.1 ++ o.passed)).contains i).foldl _ _ = _
    rw [← part_filter_not]
    refine foldl_ext _ _ _ fun es i hi => ?_
    have hl : g.label "hash" i = (g.beside h).label "hash" i := by
      rw [label,label,get?,get?,attributes_beside (how i hi)]
    rw [hl]
  · rw [entries_foldl]
    exact hkn

omit hk in
lemma Findings.notPassed (hnodes : nodes ⊆ (g.beside h).nodes)
    (hac : Findings g h nodes acc acc') (ho : o.Within nodes) (hc : Continued g h k u) (n : Nat) :
    ∃ failed, k.notPassed (((g.verdicts o).failed.filter fun i => !(g.verdicts o).passed.contains i) ++
          (acc.2.filter fun t => t.count == n || !k.isAmong t.vertex acc.1).map (·.vertex))
        ((g.verdicts o).passed ++ acc.1) = .ok (g.part failed) ∧
      u.notPassed ((o.failed.filter fun i => !o.passed.contains i) ++
          (acc'.2.filter fun t => t.count == n || !u.isAmong t.vertex acc'.1).map (·.vertex))
        (o.passed ++ acc'.1) = .ok failed ∧ Outcome.Within nodes ⟨o.passed ++ acc'.1,failed⟩ := by
  have hp : (g.verdicts o).passed ++ acc.1 = g.part (o.passed ++ acc'.1) := by
    rw [hac.part,part_append]
    rfl
  have hin : ∀ i ∈ o.passed ++ acc'.1, i ∈ nodes := forall_mem_append.2 ⟨ho.passed,hac.within⟩
  have how : ∀ {vs : List Nat}, ∀ i ∈ g.part vs, i ∈ g.nodes := fun _ hi => g.part_subset _ hi
  -- Who failed is known from before or from the tally.
  have hen : ∀ t ∈ acc.2, t.vertex ∈ g.nodes := by
    intro t ht
    have he : (t.digest,t.vertex) ∈ entries acc.2 := mem_map_of_mem ht
    rw [hac.tallies] at he
    exact contains_iff_mem.1 (mem_filter.1 he).2
  have hf : ∀ {p : Tally → Bool}, ∀ i ∈ (o.failed.filter fun i => !o.passed.contains i) ++
      (acc'.2.filter p).map (·.vertex), i ∈ nodes :=
    within_added (fun i hi => ho.failed i (mem_filter.1 hi).1) fun t ht => (hac.known _ (mem_map_of_mem ht)).1
  have hf' : ∀ {p : Tally → Bool}, ∀ i ∈ ((g.verdicts o).failed.filter fun i => !(g.verdicts o).passed.contains i) ++
      (acc.2.filter p).map (·.vertex), i ∈ g.nodes := within_added (fun i hi => how i (mem_filter.1 hi).1) hen
  refine ⟨_,?_,notPassed_after hapart.labelled hnodes hc.whole hf hin,hin,fun i hi => hf i (mem_filter.1 hi).1⟩
  rw [notPassed_after hapart.left (Subset.refl _) hc.left hf' (hp ▸ how)]
  congr 1
  simp only [hc.isAmong_left hapart,hc.isAmong_whole hapart,filter_append,filter_added,part_append]
  have hv : (entries acc.2).map Prod.snd = g.part ((entries acc'.2).map Prod.snd) := by
    rw [hac.tallies,Net.part,filter_map]
    rfl
  rw [hp,part_filter_not,part_filter_not,part_filter_not,hv]
  rfl

end

variable (hapart : g.Apart h) (hnodes : nodes ⊆ (g.beside h).nodes)

include hapart hnodes

mutual

lemma covers_connect : (c : Condition) → (∀ d ∈ c.guards, g.Represents (g.beside h) nodes d) → ∀ exclude {k u}, SameBlocks g h k u →
    CoversPart g h k u (connect c (g.part nodes) (g.part exclude)) (connect c nodes exclude)
  | .connection link types connected,_,exclude,k,u,hk => by
    rw [connect,connect]
    have hc := hk.toContinued
    refine covers_get_bind (covers_lift_bind fun e he => ⟨_,hc.ends_part hapart he,?_⟩)
    exact hk.covers_connection hapart link (hc.whole.allEnds_iff.1 (allEnds_of_ends he)) (Subset.refl _)
  | .conj cs,hg,exclude,k,u,hk => by
    rw [connect,connect]
    have hcn := hk.toContinued
    refine covers_get_bind (covers_lift_bind fun members hm => ⟨_,hcn.ofTypes_part hm,?_⟩)
    rw [hcn.whole.ofTypes_eq] at hm
    rw [(hg _ mem_cons_self).isEmpty_eq hm]
    split
    · exact covers_pure hk rfl
    have how := g.part_subset nodes
    have hpr : ∀ d ∈ guardsOf cs, g.Represents (g.beside h) nodes d := fun d hd =>
      hg d (mem_cons_of_mem _ hd)
    refine (covers_unconnected hapart cs nodes hk).bind fun o o' k₁ u₁ hr ho hk₁ => ?_
    subst ho
    have hcont₁ := hk₁.toContinued
    have hin := within_unconnected hr
    have hin' := g.within_part hin
    refine covers_get_bind (covers_ok_bind (ids_after hapart.left how hcont₁.left hin'.failed)
      (ids_after hapart.labelled hnodes hcont₁.whole hin.failed) ?_)
    refine covers_get_bind (covers_ok_bind (withoutIds_after hapart.left how hcont₁.left hin')
      (withoutIds_after hapart.labelled hnodes hcont₁.whole hin) ?_)
    refine covers_lift_bind fun types ht => ⟨types,ht,?_⟩
    have hs : Verdicts g h nodes
        (⟨(g.verdicts o').passed.filter fun i => !(g.verdicts o').failed.contains i,(g.verdicts o').failed⟩,
          (g.verdicts o').failed.map (g.label "id_"))
        (⟨o'.passed.filter fun i => !o'.failed.contains i,o'.failed⟩,o'.failed.map ((g.beside h).label "id_")) := by
      refine ⟨?_,hin.withoutFailed,rfl,rfl⟩
      simp only [verdicts,part_filter_not]
    refine (covers_connectAll cs hpr types false hk₁ hs).bind fun acc acc' k₂ u₂ _ hac hk₂ => ?_
    refine (covers_connectAll cs hpr types true hk₂ hac).bind fun end_ end' k₃ u₃ _ hed hk₃ => ?_
    obtain ⟨p,ids⟩ := end_
    obtain ⟨p',ids'⟩ := end'
    obtain ⟨hp,hpn,hi,hi'⟩ := hed
    dsimp only at hp hpn hi hi'
    subst hp hi hi'
    have hcont₃ := hk₃.toContinued
    refine covers_get_bind (covers_ok_bind (withoutIds_after hapart.left how hcont₃.left (within_part hpn))
      (withoutIds_after hapart.labelled hnodes hcont₃.whole hpn) ?_)
    refine covers_get_bind (covers_lift hk₃ fun o hkp => ⟨_,?_,rfl⟩)
    have hkp' := hk₃.kept_part hapart hnodes hpn.withoutFailed hkp
    simpa only [verdicts,part_filter_not] using hkp'
  | .disj cs,hg,exclude,k,u,hk => by
    rw [connect,connect]
    have how := g.part_subset nodes
    refine (covers_unconnected hapart cs nodes hk).bind fun o o' k₁ u₁ hr ho hk₁ => ?_
    subst ho
    have hcont₁ := hk₁.toContinued
    have hin := within_unconnected hr
    have hin' := g.within_part hin
    refine covers_get_bind (covers_ok_bind
      (notPassed_after hapart.left how hcont₁.left hin'.failed hin'.passed)
      (notPassed_after hapart.labelled hnodes hcont₁.whole hin.failed hin.passed) ?_)
    have hs : Findings g h nodes ([],[]) ([],[]) := ⟨rfl,by simp,rfl,by simp [entries]⟩
    refine (covers_connectAny cs hg hk₁ hs).bind fun acc acc' k₂ u₂ _ hac hk₂ => ?_
    obtain ⟨linked,tallies⟩ := acc
    obtain ⟨linked',tallies'⟩ := acc'
    refine covers_get_bind ?_
    obtain ⟨failed,hf,hf',hin₂⟩ := hac.notPassed hapart hnodes hin hk₂.toContinued _
    refine covers_ok_bind hf hf' (covers_lift hk₂ fun o hkp => ⟨_,?_,rfl⟩)
    have hps : (g.verdicts o').passed ++ linked = g.part (o'.passed ++ linked') :=
      (congrArg (_ ++ ·) hac.part).trans (part_append ..).symm
    rw [hps]
    exact hk₂.kept_part hapart hnodes hin₂ hkp
  | .attr _,_,_,_,_,hk | .filter _ _ _,_,_,_,_,hk | .negation _,_,_,_,_,hk => by
    simp only [connect]
    exact covers_pure hk rfl

lemma covers_connectAll : (cs : List Condition) → (∀ d ∈ guardsOf cs, g.Represents (g.beside h) nodes d) → ∀ types late {acc acc' k u}, SameBlocks g h k u →
    Verdicts g h nodes acc acc' → Covers g h (Verdicts g h nodes) k u (connectAll cs types late (g.part nodes) acc)
      (connectAll cs types late nodes acc')
  | [],_,_,_,_,_,_,_,hk,ha => by
    rw [connectAll,connectAll]
    exact covers_pure hk ha
  | c::cs,hg,types,late,(o,ids),(o',ids'),k,u,hk,ha => by
    rw [connectAll,connectAll]
    obtain ⟨hf,hr⟩ := guardsOf_cons hg
    split
    · next hn =>
      have hc : c.isConnected := (Bool.and_eq_true _ _ ▸ hn).1
      have hfl : o.failed = g.part o'.failed := congrArg Outcome.failed ha.part
      rw [hfl]
      refine (covers_connect c (hf hc) o'.failed hk).bind fun p p' k' u' hrn hp hk' => ?_
      subst hp
      have hin := within_connect c hrn
      have ho := g.part_subset nodes
      refine covers_get_bind (covers_ok_bind
        (ids_after hapart.left ho hk'.toContinued.left (within_part hin).failed)
        (ids_after hapart.labelled hnodes hk'.toContinued.whole hin.failed) ?_)
      refine covers_connectAll cs hr types late hk' ⟨?_,ha.within.append hin,?_,?_⟩
      · exact (congrArg (Outcome.append · _) ha.part).trans (verdicts_append g o' p').symm
      · exact (congrArg (· ++ _) ha.ids).trans map_append.symm
      · exact (congrArg (· ++ _) ha.ids').trans map_append.symm
    · exact covers_connectAll cs hr types late hk ha

lemma covers_connectAny : (cs : List Condition) → (∀ d ∈ guardsOf cs, g.Represents (g.beside h) nodes d) → ∀ {acc acc' k u}, SameBlocks g h k u → Findings g h nodes acc acc' →
    Covers g h (Findings g h nodes) k u (connectAny cs (g.part nodes) acc) (connectAny cs nodes acc')
  | [],_,_,_,_,_,hk,ha => by
    rw [connectAny,connectAny]
    exact covers_pure hk ha
  | c::cs,hg,(passed,tallies),(passed',tallies'),k,u,hk,ha => by
    rw [connectAny,connectAny]
    obtain ⟨hf,hr⟩ := guardsOf_cons hg
    split
    · next hc =>
      refine (covers_connect c (hf hc) [] hk).bind fun o o' k' u' hrn ho hk' => ?_
      subst ho
      obtain ⟨ts,ts',hts,hts',hfn⟩ := ha.tallied hapart hnodes (within_connect c hrn) hk'.toContinued
      exact covers_get_bind (covers_ok_bind hts hts' (covers_connectAny cs hr hk' hfn))
    · exact covers_connectAny cs hr hk ha

end

omit hnodes in
lemma covers_policy (hcn : c.isConnected)
    (hw : g.Represents (g.beside h) (g.beside h).nodes c)
    (hg : ∀ nodes, (g.beside h).reduced c (g.beside h).nodes = .ok nodes →
      ∀ d ∈ c.guards, g.Represents (g.beside h) nodes d) : CoversPart g h g (g.beside h) (policy c) (policy c) := by
  have hs := start hapart
  have hct := hs.toContinued
  have hr : ∀ {nodes}, (g.beside h).reduced c (g.beside h).nodes = .ok nodes →
      g.reduced c g.nodes = .ok (g.part nodes) := fun hnodes => by
    rw [← part_nodes g h]
    exact hct.reduced_part hw hnodes
  unfold policy
  refine covers_get_bind ?_
  cases c with
  | attr _ | filter _ _ _ | negation _ => cases hcn
  | connection link types connected =>
    refine covers_lift_bind fun e he => ⟨g.partEnds e,?_,?_⟩
    · rw [← part_nodes g h]
      exact hct.ends_part hapart he
    refine covers_lift_bind fun nodes hnodes => ⟨_,hr hnodes,?_⟩
    exact hs.covers_connection hapart link (allEnds_of_ends he) (sublist_of_reduced hnodes).subset
  | conj _ | disj _ =>
    simp only [hcn,if_true]
    refine covers_lift_bind fun nodes hnodes => ⟨_,hr hnodes,?_⟩
    exact covers_connect hapart (sublist_of_reduced hnodes).subset _ (hg nodes hnodes) [] hs

end SameBlocks

/-- A policy on connections judges the blocks of a net as without the net beside it. Blocks of the two nets have no id
and no hash in common. Where a block of the other net is of resource types without which no verdicts are given, one of
the net is too. -/
theorem verdicts_beside_eq_alone {p : Rule} {g h : Net} (hconnected : p.condition.isConnected = true)
    (hapart : g.Apart h) (hwhole : g.Represents (g.beside h) (g.beside h).nodes p.condition)
    (hguards : ∀ nodes, (g.beside h).reduced p.condition (g.beside h).nodes = .ok nodes →
      ∀ d ∈ p.condition.guards, g.Represents (g.beside h) nodes d)
    {o : Outcome} (hrun : (p.apply (g.beside h)).1 = .ok o) : (p.apply g).1 = .ok (g.verdicts o) := by
  have hexec : exec (Run.policy p.condition) (g.beside h) = (.ok o,(p.apply (g.beside h)).2) := Prod.ext hrun rfl
  obtain ⟨o',k,hleft,rfl,-⟩ := SameBlocks.covers_policy hapart hconnected hwhole hguards o _ hexec
  exact congrArg Prod.fst hleft

def elsewhere (id type : String) : Fields := Fields.insert "file_path_" "/other.tf" (typedBlock "resource" id type)

def otherNet : Net := .ofParts [elsewhere "host.x" "host",elsewhere "net.y" "net",elsewhere "host.z" "host"] [(0,2),(1,2)]

def hostsBesideNets : Condition :=
  .conj [.attr ⟨.oneOf ["net"],.equals,some "id_","net.g",false⟩,
    .connection .linked (.oneOf ["host"]) (.oneOf ["host"])]

lemma apart_otherNet : crossedNet.Apart otherNet where
  closed := by decide +kernel
  links := by decide +kernel
  left := labelled_of_isSome (by decide +kernel)
  right := labelled_of_isSome (by decide +kernel)
  ids := by decide +kernel
  hashes := by decide +kernel

lemma represents_of_toOption (vs : List Nat)
    (h : (u.ofTypes c.endTypes.1 nodes).toOption = some vs) (hp : g.part vs ≠ []) : g.Represents u nodes c := by
  intro vs' hvs' hn
  cases (eq_ok_of_toOption h).symm.trans hvs'
  exact (hp hn).elim

theorem verdicts_beside_eq_alone_crossed :
    ((policyOn hostsBesideNets).apply (crossedNet.beside otherNet)).1.toOption = some ⟨[6,2,4,7,9],[1,5,8,0]⟩ ∧
      ((policyOn hostsBesideNets).apply crossedNet).1 = .ok ⟨[6,2,4],[1,5,0]⟩ := by
  have hrun : ((policyOn hostsBesideNets).apply (crossedNet.beside otherNet)).1.toOption =
      some ⟨[6,2,4,7,9],[1,5,8,0]⟩ := by decide +kernel
  have hreduced : ((crossedNet.beside otherNet).reduced hostsBesideNets (crossedNet.beside otherNet).nodes).toOption =
      some [0,1,2,3,4,5,6,7,8,9] := by decide +kernel
  have hnodes : (crossedNet.beside otherNet).nodes = [0,1,2,3,4,5,6,7,8,9] := by decide +kernel
  have hrepresents : crossedNet.Represents (crossedNet.beside otherNet) [0,1,2,3,4,5,6,7,8,9] hostsBesideNets :=
    represents_of_toOption [0,1,2,4,5,6,7,8,9] (by decide +kernel) (by decide +kernel)
  refine ⟨hrun,verdicts_beside_eq_alone (p := policyOn hostsBesideNets) rfl apart_otherNet
    (hnodes ▸ hrepresents) (fun nodes hnodes d hd => ?_) (eq_ok_of_toOption hrun)⟩
  cases (eq_ok_of_toOption hreduced).symm.trans hnodes
  obtain rfl : d = hostsBesideNets := List.mem_singleton.1 hd
  exact hrepresents

def namedHost : Net :=
  .ofParts [("name",.str "web") :: typedBlock "resource" "host.a" "host",typedBlock "resource" "net.b" "net"] [(0,1)]

def namesake : Net := .ofParts [elsewhere "host.a" "host"] []

def namedAndLinked : Condition :=
  .conj [.attr ⟨.oneOf ["host"],.present,some "name",.null,false⟩,.connection .linked (.oneOf ["host"]) (.oneOf ["net"])]

/-- A host with a name passes. Beside a host of the same id in another file that has none, it has no verdict. -/
theorem verdict_of_host_lost_beside_namesake :
    (∀ i ∈ namedHost.nodes, ∀ j ∈ namesake.nodes, namedHost.text? i "file_path_" ≠ namesake.text? j "file_path_") ∧
      ((policyOn namedAndLinked).apply namedHost).1.toOption = some ⟨[0,1],[]⟩ ∧
      ((policyOn namedAndLinked).apply (namedHost.beside namesake)).1.toOption = some ⟨[1],[2]⟩ :=
  ⟨by decide +kernel,by decide +kernel,by decide +kernel⟩

end InfraAudit.Policy
