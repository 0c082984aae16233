import InfraAudit.Proofs.Policy.Connections

/-!
A run gives no block both verdicts. One that looks for one kind of connection gives a verdict on every block of its types,
whichever way it walks.
-/

namespace InfraAudit.Policy

open List Net Run Prod Outcome

variable {e : Ends} {nodes vs vs' exclude : List Nat} {ids : List Value}
  {g : Net} {o : Outcome}

namespace Outcome

def Consistent (o : Outcome) : Prop := ∀ i ∈ o.passed, i ∉ o.failed

structure Same (o o' : Outcome) : Prop where
  passed : ∀ i, i ∈ o.passed ↔ i ∈ o'.passed
  failed : ∀ i, i ∈ o.failed ↔ i ∈ o'.failed

lemma Consistent.swap (h : o.Consistent) : o.swap.Consistent := fun i hf hp => h i hp hf

structure Within (nodes : List Nat) (o : Outcome) : Prop where
  passed : ∀ i ∈ o.passed, i ∈ nodes
  failed : ∀ i ∈ o.failed, i ∈ nodes

namespace Within

variable {o' : Outcome}

lemma empty (nodes : List Nat) : Within nodes {} := ⟨by simp,by simp⟩

lemma append (ho : o.Within nodes) (ho' : o'.Within nodes) : (o.append o').Within nodes :=
  ⟨forall_mem_append.2 ⟨ho.passed,ho'.passed⟩,forall_mem_append.2 ⟨ho.failed,ho'.failed⟩⟩

lemma of (hi : i ∈ nodes) (b : Option Bool) : (Outcome.of i b).Within nodes :=
  ⟨fun _ hj => (mem_of_passed.1 hj).2 ▸ hi,fun _ hj => (mem_of_failed.1 hj).2 ▸ hi⟩

lemma of_subset (ho : o.Within nodes) (hs : o'.passed ⊆ o.passed ∧ o'.failed ⊆ o.failed) : o'.Within nodes :=
  ⟨fun i hi => ho.passed i (hs.1 hi),fun i hi => ho.failed i (hs.2 hi)⟩

lemma withoutFailed (ho : o.Within nodes) : Within nodes ⟨o.passed.filter fun i => !o.failed.contains i,o.failed⟩ :=
  ho.of_subset ⟨filter_subset_self _,Subset.refl _⟩

end Within

lemma Consistent.add (ho : o.Consistent) (hw : o.Within nodes) (hi : i ∉ nodes) (b : Option Bool) :
    ((Outcome.of i b).append o).Consistent := by
  have hp := mt (hw.passed i) hi
  have hf := mt (hw.failed i) hi
  intro j hj hj'
  rw [append,mem_append,mem_of_passed] at hj
  rw [append,mem_append,mem_of_failed] at hj'
  grind [Consistent]

end Outcome

namespace Run

variable {g h : Net}

section

variable {α : Type}

lemma exec_each_cons (hr : exec (each f (a::as)) g = (.ok o,h)) :
    ∃ p q g', exec (f a) g = (.ok p,g') ∧ exec (each f as) g' = (.ok q,h) ∧ o = p.append q := by
  obtain ⟨p,g',hp,hr⟩ := exec_bind_eq_ok.1 hr
  obtain ⟨q,h',hq,hr⟩ := exec_bind_eq_ok.1 hr
  cases hr
  exact ⟨p,q,g',hp,hq,rfl⟩

lemma of_each {P : Outcome → Prop} (h0 : P {}) (ha : ∀ {p q}, P p → P q → P (p.append q))
    (hf : ∀ a ∈ as, ∀ {g h o}, exec (f a) g = (.ok o,h) → P o) (hr : exec (each f as) g = (.ok o,h)) : P o := by
  induction as generalizing g o with
  | nil =>
    cases hr
    exact h0
  | cons a as ih =>
    obtain ⟨hf,hfs⟩ := forall_mem_cons.1 hf
    obtain ⟨p,q,g',hp,hq,rfl⟩ := exec_each_cons hr
    exact ha (hf hp) (ih hfs hq)

end

lemma within_single (hr : exec (single t nodes) g = (.ok o,h)) : o.Within nodes := by
  refine of_each (.empty nodes) .append (fun i hi g h o ho => ?_) hr
  obtain ⟨b,_,-,hb⟩ := exec_bind_eq_ok.1 ho
  cases hb
  exact .of hi b

lemma consistent_single (hn : nodes.Nodup) (hr : exec (single t nodes) g = (.ok o,h)) : o.Consistent := by
  induction nodes generalizing g o with
  | nil =>
    cases hr
    simp [Consistent]
  | cons i nodes ih =>
    obtain ⟨p,q,g',hp,hq,rfl⟩ := exec_each_cons hr
    obtain ⟨b,_,-,hb⟩ := exec_bind_eq_ok.1 hp
    cases hb
    obtain ⟨hi,hn⟩ := nodup_cons.1 hn
    exact (ih hn hq).add (within_single hq) hi b

lemma consistent_combined (hr : exec (combined c nodes) g = (.ok o,h)) : o.Consistent := by
  rw [combined] at hr
  obtain ⟨members,-,hr⟩ := exec_ask_eq_ok.1 hr
  obtain ⟨passed,g',-,hr⟩ := exec_bind_eq_ok.1 hr
  rw [exec_get_bind] at hr
  cases hr
  intro i hi hf
  have hn := (mem_filter.1 hf).2
  simp [isAmong,hi] at hn

end Run

lemma Net.alongEdge_eq_ok (h : g.alongEdge e nodes u v = .ok (o,b)) :
    o = {} ∨ (o = {failed := [u,v]} ∧ e.excluded ≠ []) ∨
      ∃ w, o = {passed := [u,w]} ∧ (w = v ∨ w ∈ (g.out nodes v).map snd) := by
  simp only [alongEdge] at h
  generalize (if g.isAmong u e.under then e.opposite else if g.isAmong u e.opposite then e.under else []) = far at h
  split at h
  · cases h
    exact .inl rfl
  split at h
  · cases h
    split
    · next hb => exact .inr (.inl ⟨rfl,fun he => by simp [he,Ends.isAmong_nil] at hb⟩)
    · exact .inr (.inr ⟨v,rfl,.inl rfl⟩)
  split at h
  · split at h
    · next _ w _ hw =>
      obtain ⟨b,-,h⟩ := bind_eq_ok.1 h
      split at h
      · cases h
        exact .inr (.inr ⟨w,rfl,.inr (by simp [hw])⟩)
      · cases h
        exact .inl rfl
    · cases h
      exact .inl rfl
  · cases h
    exact .inl rfl

lemma Net.consistent_concluded (g : Net) (link : Link) (e : Ends) (ho : o.failed = []) :
    (g.concluded link e o).Consistent := by
  have hl : (g.concluded .linked e o).Consistent := by
    intro i hi hf
    rw [concluded,ho,nil_append] at hf
    have hn := (mem_filter.1 hf).2
    have hi : i ∈ o.passed := hi
    simp [isAmong,hi] at hn
  cases link with
  | linked => exact hl
  | notLinked => exact hl.swap
  | oneLinked => exact fun i hi hf => hl i hi (mem_of_mem_filter hf)

namespace Run

variable {g h : Net}

lemma exec_alongEdge_eq_ok (hr : exec (alongEdge e nodes u v) g = (.ok o,h)) :
    ∃ b, g.alongEdge e nodes u v = .ok (o,b) ∧ h = if b then g.link v u else g := by
  rw [alongEdge] at hr
  obtain ⟨⟨o',b⟩,ha,hr⟩ := exec_ask_eq_ok.1 hr
  cases b <;> cases hr <;> exact ⟨_,ha,rfl⟩

lemma failed_alongEdges (he : e.excluded = []) {es : List (Nat × Nat)}
    (hr : exec (alongEdges e nodes es) g = (.ok o,h)) : o.failed = [] := by
  refine of_each (P := (·.failed = [])) rfl (fun hp hq => by rw [Outcome.append,hp,hq,append_nil]) (fun _ _ g h o ho => ?_) hr
  obtain ⟨b,ha,-⟩ := exec_alongEdge_eq_ok ho
  rcases alongEdge_eq_ok ha with rfl | ⟨-,hx⟩ | ⟨w,rfl,-⟩
  · rfl
  · exact (hx he).elim
  · rfl

end Run

namespace Net

variable {g h : Net}

lemma subset_of_filtered (hk : g.filtered cs vs = .ok vs') : vs' ⊆ vs := by
  refine of_foldlM (· ⊆ vs) (fun ws f ws' _ hws hm => ?_) (Subset.refl _) hk
  obtain ⟨-,rfl⟩ := filterM_eq_ok.1 hm
  exact fun i hi => hws (mem_of_mem_filter hi)

lemma subset_of_distinct
    (hk : g.distinct entries vs = .ok vs') : vs' ⊆ entries.map Prod.snd ++ vs := by
  induction vs generalizing entries with
  | nil =>
    cases hk
    simp
  | cons i vs ih =>
    rw [distinct] at hk
    obtain ⟨id,-,hk⟩ := bind_eq_ok.1 hk
    obtain ⟨file,-,hk⟩ := bind_eq_ok.1 hk
    intro j hj
    have hm := ih hk hj
    split at hm
    · simp only [mem_append,mem_map,Prod.exists,mem_cons] at hm ⊢
      grind
    · simp only [map_append,mem_append,map_cons,map_nil,mem_cons] at hm ⊢
      grind

lemma subset_of_kept (hk : g.kept cs o = .ok o') : o'.passed ⊆ o.passed ∧ o'.failed ⊆ o.failed := by
  rw [kept] at hk
  obtain ⟨passed,hp,hk⟩ := bind_eq_ok.1 hk
  obtain ⟨failed,hf,hk⟩ := bind_eq_ok.1 hk
  obtain ⟨passed',hp',hk⟩ := bind_eq_ok.1 hk
  obtain ⟨failed',hf',hk⟩ := bind_eq_ok.1 hk
  cases hk
  exact ⟨fun i hi => subset_of_filtered hp (by simpa using subset_of_distinct hp' hi),
    fun i hi => subset_of_filtered hf (by simpa using subset_of_distinct hf' hi)⟩

def Listed (g : Net) (vs : List Nat) (ids : List Value) : Prop := ∀ i ∈ vs, ∃ v ∈ ids, g.get i "id_" = .ok v

lemma listed_of_mapM
    (hvl : vs.mapM (fun i => g.get i key) = .ok values) (hi : i ∈ vs) : ∃ v ∈ values, g.get i key = .ok v := by
  obtain ⟨v,hv⟩ := exists_mapM_iff.1 ⟨values,hvl⟩ i hi
  have hm : v ∈ values.flatMap ([·]) := (mem_flatMap_of_mapM hvl _ v).2 ⟨i,hi,v,hv,mem_singleton_self v⟩
  exact ⟨v,by simpa using hm,hv⟩

lemma Listed.append (hvs : g.Listed vs ids) (hvs' : g.Listed vs' ids') : g.Listed (vs ++ vs') (ids ++ ids') := by
  intro i hi
  rcases mem_append.1 hi with hi | hi
  · obtain ⟨v,hv,hg⟩ := hvs i hi
    exact ⟨v,mem_append_left _ hv,hg⟩
  · obtain ⟨v,hv,hg⟩ := hvs' i hi
    exact ⟨v,mem_append_right _ hv,hg⟩

lemma Extends.listed_ids (he : g.Extends h) (hid : h.ids vs = .ok ids) : g.Listed vs ids := by
  intro i hi
  obtain ⟨v,hv,hg⟩ := listed_of_mapM hid hi
  exact ⟨v,hv,he.get_eq (show "id_" ∈ ownKeys by decide) i ▸ hg⟩

lemma Identified.elem_of_get (hg : g.Identified) (hk : key ∈ ["id_","file_path_"]) (hv : g.get i key = .ok v)
    (hw : w ∈ values) (hgt : g.get i key = .ok w) : v.elem values := by
  obtain ⟨s,hs⟩ := hg.texts i (lt_of_get hv) key hk
  exact elem_of_text? ((text?_of_get hv).symm.trans hs) ((text?_of_get hgt).symm.trans hs) hw

lemma Identified.not_mem_withoutIds (hg : g.Identified) (he : g.Extends h) {failed : List Nat}
    (hl : g.Listed failed ids) (hvs : h.withoutIds vs ids = .ok vs') (hi : i ∈ vs') : i ∉ failed := by
  intro hf
  obtain ⟨v,hv,hgt⟩ := hl i hf
  obtain ⟨-,rfl⟩ := filterM_eq_ok.1 hvs
  have hy := (mem_filter.1 hi).2
  rw [he.get_eq (by decide),hgt] at hy
  simp [isYes,hg.elem_of_get (by simp) hgt hv hgt] at hy

lemma Identified.not_mem_notPassed (hg : g.Identified) (hex : g.Extends h) {failed failed' passed : List Nat}
    (hf : h.notPassed failed passed = .ok failed') (hi : i ∈ passed) : i ∉ failed' := by
  rw [notPassed] at hf
  obtain ⟨ids,his,hf⟩ := bind_eq_ok.1 hf
  obtain ⟨ha,rfl⟩ := filterM_eq_ok.1 hf
  intro hm
  obtain ⟨hm,hy⟩ := mem_filter.1 hm
  obtain ⟨b,hb⟩ := ha i hm
  obtain ⟨id,hid,hgt⟩ := hex.listed_ids his i hi
  simp only [hb,isYes] at hy
  subst hy
  rw [hex.get_eq (by decide),hgt] at hb
  have he := hg.elem_of_get (by simp) hgt hid hgt
  -- The id is known, so the block stays only for its file, which is known as well.
  obtain ⟨_,hid',hb⟩ := bind_eq_ok.1 hb
  cases hid'
  simp only [he,Bool.not_true,Bool.false_eq_true,if_false] at hb
  obtain ⟨files,hfl,hb⟩ := bind_eq_ok.1 hb
  obtain ⟨file,hfi,hb⟩ := bind_eq_ok.1 hb
  obtain ⟨file',hfi',hgt'⟩ := listed_of_mapM hfl hi
  rw [hex.get_eq (by decide)] at hfi hgt'
  simp [hg.elem_of_get (by simp) hfi hfi' hgt'] at hb

end Net

namespace Run

variable {g h h' : Net}

lemma listed_connectAll
    (he : g.Extends h) (hl : g.Listed o.failed ids)
    (hr : exec (connectAll cs types late nodes (o,ids)) h = (.ok (o',ids'),h')) : g.Listed o'.failed ids' := by
  induction cs generalizing h o ids with
  | nil =>
    rw [connectAll] at hr
    cases hr
    exact hl
  | cons c cs ih =>
    rw [connectAll] at hr
    split at hr
    · obtain ⟨p,k,hc,hr⟩ := exec_bind_eq_ok.1 hr
      have hk : g.Extends k := grows_connect.after he hc
      obtain ⟨more,hm,hr⟩ := exec_ask_eq_ok.1 hr
      exact ih hk (hl.append (hk.listed_ids hm)) hr
    · exact ih he hl hr

lemma exists_of_conj (hr : exec (connect (.conj cs) nodes exclude) h = (.ok o,h')) :
    h.ofTypes (Condition.conj cs).endTypes.1 nodes = .ok [] ∧ o = {} ∧ h' = h ∨
      ∃ alone h₁ ids passed types early h₂ late passed', exec (unconnected cs nodes) h = (.ok alone,h₁) ∧
        h₁.ids alone.failed = .ok ids ∧ h₁.withoutIds alone.passed ids = .ok passed ∧ keptTypes cs = .ok types ∧
        exec (connectAll cs types false nodes (⟨passed,alone.failed⟩,ids)) h₁ = (.ok early,h₂) ∧
        exec (connectAll cs types true nodes early) h₂ = (.ok late,h') ∧
        h'.withoutIds late.1.passed late.2 = .ok passed' ∧ h'.kept cs {late.1 with passed := passed'} = .ok o := by
  rw [connect] at hr
  obtain ⟨members,hm,hr⟩ := exec_ask_eq_ok.1 hr
  split at hr
  · next he =>
    cases hr
    exact .inl ⟨isEmpty_iff.1 he ▸ hm,rfl,rfl⟩
  obtain ⟨alone,h₁,ha,hr⟩ := exec_bind_eq_ok.1 hr
  obtain ⟨ids,hi,hr⟩ := exec_ask_eq_ok.1 hr
  obtain ⟨passed,hp,hr⟩ := exec_ask_eq_ok.1 hr
  obtain ⟨types,ht,hr⟩ := exec_lift_bind_eq_ok.1 hr
  obtain ⟨early,h₂,her,hr⟩ := exec_bind_eq_ok.1 hr
  obtain ⟨late,h₃,hl,hr⟩ := exec_bind_eq_ok.1 hr
  dsimp only at hr
  obtain ⟨passed',hp',hr⟩ := exec_ask_eq_ok.1 hr
  rw [exec_get_bind,exec_lift] at hr
  obtain ⟨hk,rfl⟩ := mk.inj hr
  exact .inr ⟨alone,h₁,ids,passed,types,early,h₂,late,passed',ha,hi,hp,ht,her,hl,hp',hk⟩

lemma exists_of_disj (hr : exec (connect (.disj cs) nodes exclude) h = (.ok o,h')) :
    ∃ alone h₁ failed linked tallies failed', exec (unconnected cs nodes) h = (.ok alone,h₁) ∧
      h₁.notPassed alone.failed alone.passed = .ok failed ∧
      exec (connectAny cs nodes ([],[])) h₁ = (.ok (linked,tallies),h') ∧
      h'.notPassed (failed ++ (tallies.filter fun t =>
        t.count == (cs.filter Condition.isConnected).length || !h'.isAmong t.vertex linked).map (·.vertex))
          (alone.passed ++ linked) = .ok failed' ∧ h'.kept cs ⟨alone.passed ++ linked,failed'⟩ = .ok o := by
  rw [connect] at hr
  obtain ⟨alone,h₁,ha,hr⟩ := exec_bind_eq_ok.1 hr
  obtain ⟨failed,hf,hr⟩ := exec_ask_eq_ok.1 hr
  obtain ⟨⟨linked,tallies⟩,h₂,hl,hr⟩ := exec_bind_eq_ok.1 hr
  dsimp only at hr
  obtain ⟨failed',hf',hr⟩ := exec_ask_eq_ok.1 hr
  rw [exec_lift] at hr
  obtain ⟨hk,rfl⟩ := mk.inj hr
  exact ⟨alone,h₁,failed,linked,tallies,failed',ha,hf,hl,hf',hk⟩

lemma consistent_conj (hg : g.Identified) (hex : g.Extends h)
    (hr : exec (connect (.conj cs) nodes exclude) h = (.ok o,h')) : o.Consistent := by
  rcases exists_of_conj hr with ⟨-,rfl,-⟩ | ⟨alone,h₁,ids,passed,types,⟨early,earlyIds⟩,h₂,⟨late,lateIds⟩,
    passed',ha,hid,-,-,he,hl,hp',hk⟩
  · simp [Consistent]
  have hext₁ : g.Extends h₁ := grows_unconnected.after hex ha
  have hext₂ : g.Extends h₂ := grows_connectAll.after hext₁ he
  have hext₃ : g.Extends h' := grows_connectAll.after hext₂ hl
  have hls : g.Listed late.failed lateIds :=
    listed_connectAll hext₂ (listed_connectAll hext₁ (o := ⟨passed,alone.failed⟩) (hext₁.listed_ids hid) he) hl
  obtain ⟨hs,hs'⟩ := subset_of_kept hk
  exact fun i hi hf => hg.not_mem_withoutIds hext₃ hls hp' (hs hi) (hs' hf)

lemma consistent_disj (hg : g.Identified) (he : g.Extends h)
    (hr : exec (connect (.disj cs) nodes exclude) h = (.ok o,h')) : o.Consistent := by
  obtain ⟨alone,h₁,failed,linked,tallies,failed',ha,-,hl,hf',hk⟩ := exists_of_disj hr
  have hext₁ : g.Extends h₁ := grows_unconnected.after he ha
  have hext₂ : g.Extends h' := grows_connectAny.after hext₁ hl
  obtain ⟨hs,hs'⟩ := subset_of_kept hk
  exact fun i hi hf => hg.not_mem_notPassed hext₂ hf' (hs hi) (hs' hf)

lemma consistent_connection {link : Link} (he : e.excluded = [])
    (hr : exec (connection link e nodes) g = (.ok o,h)) : o.Consistent := by
  rw [connection,exec_get_bind] at hr
  obtain ⟨along,h',ha,hr⟩ := exec_bind_eq_ok.1 hr
  rw [exec_get_bind] at hr
  cases hr
  exact h.consistent_concluded link e (failed_alongEdges he ha)

end Run

lemma Net.excluded_nil
    (he : g.ends types connected nodes [] = .ok e) : e.excluded = [] := by
  rw [ends] at he
  obtain ⟨under,-,he⟩ := bind_eq_ok.1 he
  obtain ⟨opposite,-,he⟩ := bind_eq_ok.1 he
  cases he
  simp [Ends.isAmong_nil]

namespace Run

variable {g h h' : Net}

lemma consistent_connect (hg : g.Identified) (hex : g.Extends h)
    (hr : exec (connect c nodes []) h = (.ok o,h')) : o.Consistent := by
  cases c with
  | connection link types connected =>
    rw [connect] at hr
    obtain ⟨e,he,hr⟩ := exec_ask_eq_ok.1 hr
    exact consistent_connection (excluded_nil he) hr
  | conj cs => exact consistent_conj hg hex hr
  | disj cs => exact consistent_disj hg hex hr
  | attr _ | filter _ _ _ | negation _ =>
    simp only [connect] at hr
    cases hr
    simp [Consistent]

lemma consistent_policy (hg : g.Identified) (hr : exec (policy c) g = (.ok o,h)) : o.Consistent := by
  rw [policy,exec_get_bind] at hr
  cases c with
  | attr t => exact consistent_single nodup_range hr
  | filter _ _ _ => cases hr
  | connection link types connected =>
    obtain ⟨e,he,hr⟩ := exec_lift_bind_eq_ok.1 hr
    obtain ⟨nodes,-,hr⟩ := exec_lift_bind_eq_ok.1 hr
    exact consistent_connection (excluded_nil he) hr
  | conj _ | disj _ | negation _ =>
    dsimp only at hr
    split at hr
    · obtain ⟨nodes,-,hr⟩ := exec_lift_bind_eq_ok.1 hr
      exact consistent_connect hg (.refl g) hr
    · next hc =>
      simp only [alone,hc] at hr
      exact consistent_combined hr

end Run

/-- Two results that are related, or none on both sides. -/
def Agree {α β : Type} (rel : α → β → Prop) : Result α → Result β → Prop
  | .ok a,.ok b => rel a b
  | .error _,.error _ => True
  | _,_ => False

/-- Two runs that give the same verdicts, or both none. -/
def SameVerdicts : Result Outcome → Result Outcome → Prop := Agree Same

def Net.Visits (g : Net) (order : List Nat → List (Nat × Nat)) : Prop :=
  ∀ nodes edge, edge ∈ order nodes ↔ edge ∈ g.edges ∧ edge.1 ∈ nodes ∧ edge.2 ∈ nodes

def Run.visiting (order : List Nat → List (Nat × Nat)) (link : Link) (types connected : TypeNames) : Run Outcome := do
  let g ← get
  let e ← g.ends types connected g.nodes []
  let nodes ← g.reduced (.connection link types connected) g.nodes
  let o ← alongEdges e nodes (order nodes)
  return (← get).concluded link e o

namespace Net

variable {g h : Net}

lemma visits_edgesInOrder (g : Net) : g.Visits g.edgesInOrder := fun _ _ => mem_edgesInOrder

lemma Identified.isAmong_eq (hg : g.Identified) (hr : g.Relinked h) (i : Nat) (vs : List Nat) :
    h.isAmong i vs = vs.contains i := hr.toExtends.isAmong_eq hg.toldApart i vs

lemma Identified.settled (hg : g.Identified) (e : Ends) : e.Settled g := fun _ hr vs _ i => hg.isAmong_eq hr i vs

lemma Identified.concluded_eq (hg : g.Identified) (hr : g.Relinked h) (link : Link) (e : Ends) (o : Outcome) :
    h.concluded link e o = g.concluded link e o := by
  simp only [concluded,hg.isAmong_eq hr,hg.isAmong_eq (.refl g)]

lemma Identified.same_concluded (hg : g.Identified) (link : Link) (e : Ends) (h : o.Same o') :
    (g.concluded link e o).Same (g.concluded link e o') := by
  have hc : ∀ i, o.passed.contains i = o'.passed.contains i := fun i => by
    rw [Bool.eq_iff_iff,contains_iff_mem,contains_iff_mem,h.passed]
  have hf : ∀ i, i ∈ (g.concluded .linked e o).failed ↔ i ∈ (g.concluded .linked e o').failed := by
    intro i
    simp only [concluded,hg.isAmong_eq (.refl g),hc,mem_append,h.failed]
  cases link with
  | linked => exact ⟨h.passed,hf⟩
  | notLinked => exact ⟨hf,h.passed⟩
  | oneLinked =>
    refine ⟨h.passed,fun i => ?_⟩
    have hl := hf i
    simp only [concluded,hg.isAmong_eq (.refl g),hc,mem_filter] at hl ⊢
    rw [hl]

lemma verdict_of_end (link : Link) (e : Ends) (o : Outcome) (hi : i ∈ e.under ++ e.opposite)
    (ha : ∀ vs, g.isAmong i vs = vs.contains i) :
    i ∈ (g.concluded link e o).passed ∨ i ∈ (g.concluded link e o).failed := by
  by_cases hp : i ∈ o.passed
  · cases link with
    | linked | oneLinked => exact .inl hp
    | notLinked => exact .inr hp
  · have hn : (!g.isAmong i o.passed) := by simpa [ha] using hp
    have hf : i ∈ (g.concluded .linked e o).failed := mem_append_right _ (mem_filter.2 ⟨hi,hn⟩)
    cases link with
    | linked => exact .inr hf
    | notLinked => exact .inl hf
    | oneLinked => exact .inr (mem_filter.2 ⟨hf,hn⟩)

lemma mem_ends (he : g.ends types connected nodes exclude = .ok e) (hi : i ∈ nodes)
    (ht : types.includes (g.attributes i) = .ok true ∨ connected.includes (g.attributes i) = .ok true) :
    i ∈ e.under ++ e.opposite := by
  rw [ends] at he
  obtain ⟨under,hu,he⟩ := bind_eq_ok.1 he
  obtain ⟨opposite,ho,he⟩ := bind_eq_ok.1 he
  cases he
  obtain ⟨-,rfl⟩ := filterM_eq_ok.1 hu
  obtain ⟨-,rfl⟩ := filterM_eq_ok.1 ho
  rcases ht with ht | ht
  · exact mem_append_left _ (mem_filter.2 ⟨hi,by rw [ht]; rfl⟩)
  · exact mem_append_right _ (mem_filter.2 ⟨hi,by rw [ht]; rfl⟩)

end Net

lemma agree_iff {α β : Type} {rel : α → β → Prop} {r : Result α} {r' : Result β} : Agree rel r r' ↔
    (∃ a b, r = .ok a ∧ r' = .ok b ∧ rel a b) ∨ ∃ e e', r = .error e ∧ r' = .error e' := by
  cases r <;> cases r' <;> simp [Agree]

lemma Agree.mono {α β : Type} {rel rel' : α → β → Prop} (hr : ∀ a b, rel a b → rel' a b) {r : Result α}
    {r' : Result β} (h : Agree rel r r') : Agree rel' r r' := by
  obtain ⟨a,b,rfl,rfl,h⟩ | ⟨e,e',rfl,rfl⟩ := agree_iff.1 h
  · exact hr a b h
  · trivial

lemma Agree.bind {α β α' β' : Type} {rel : α → β → Prop} {rel' : α' → β' → Prop} {r : Result α} {r' : Result β}
    {f : α → Result α'} {f' : β → Result β'} (h : Agree rel r r')
    (hf : ∀ a b, r = .ok a → r' = .ok b → rel a b → Agree rel' (f a) (f' b)) : Agree rel' (r >>= f) (r' >>= f') := by
  obtain ⟨a,b,rfl,rfl,h⟩ | ⟨e,e',rfl,rfl⟩ := agree_iff.1 h
  · exact hf a b rfl rfl h
  · trivial

lemma Net.same_said (g : Net) (e : Ends) (nodes : List Nat)
    (h : ∀ edge, edge ∈ es ↔ edge ∈ es') : SameVerdicts (g.said e nodes es) (g.said e nodes es') := by
  unfold said
  generalize (fun edge : Nat × Nat => (g.edgeSays e nodes edge.1 edge.2).map fst) = f
  have hi : (∃ os, es.mapM f = .ok os) ↔ ∃ os, es'.mapM f = .ok os := by simp only [exists_mapM_iff,h]
  cases hos : es.mapM f with
  | error e =>
    cases hos' : es'.mapM f with
    | error e' => trivial
    | ok os' =>
      obtain ⟨os,hok⟩ := hi.2 ⟨os',hos'⟩
      cases hos.symm.trans hok
  | ok os =>
    obtain ⟨os',hos'⟩ := hi.1 ⟨os,hos⟩
    rw [hos']
    have hm : ∀ (part : Outcome → List Nat) i, i ∈ os.flatMap part ↔ i ∈ os'.flatMap part := fun part i => by
      simp only [mem_flatMap_of_mapM hos,mem_flatMap_of_mapM hos',h]
    exact ⟨hm _,hm _⟩

namespace Run

variable {g h : Net} {link : Link} {types connected : TypeNames}

lemma exec_policy_visiting (link : Link) (types connected : TypeNames) (g : Net) :
    exec (policy (.connection link types connected)) g = exec (visiting g.edgesInOrder link types connected) g := by
  simp only [policy,visiting,connection,exec_get,exec_bind,exec_lift]
  cases g.ends types connected g.nodes [] with
  | error f => rfl
  | ok e => cases g.reduced (.connection link types connected) g.nodes <;> rfl

lemma exec_visiting (hg : g.Identified) (order : List Nat → List (Nat × Nat)) :
    (exec (visiting order link types connected) g).1 = do
      let e ← g.ends types connected g.nodes []
      let nodes ← g.reduced (.connection link types connected) g.nodes
      return g.concluded link e (← g.said e nodes (order nodes)) := by
  simp only [visiting,exec_get,exec_bind,exec_lift]
  cases g.ends types connected g.nodes [] with
  | error f => rfl
  | ok e =>
    cases g.reduced (.connection link types connected) g.nodes with
    | error f => rfl
    | ok nodes =>
      obtain ⟨ha,hr⟩ := exec_alongEdges (hg.settled e) (.refl g) nodes (order nodes)
      dsimp only [bind,Except.bind]
      rw [← ha]
      generalize exec (alongEdges e nodes (order nodes)) g = p at hr ⊢
      obtain ⟨answer,h⟩ := p
      cases answer with
      | error f => rfl
      | ok o => exact congrArg Except.ok (hg.concluded_eq hr link e o)

lemma same_visiting (hg : g.Identified) {order order' : List Nat → List (Nat × Nat)} (ho : g.Visits order)
    (ho' : g.Visits order') :
    SameVerdicts (exec (visiting order link types connected) g).1 (exec (visiting order' link types connected) g).1 := by
  rw [exec_visiting hg,exec_visiting hg]
  cases g.ends types connected g.nodes [] with
  | error f => trivial
  | ok e =>
    cases g.reduced (.connection link types connected) g.nodes with
    | error f => trivial
    | ok nodes =>
      have hs : SameVerdicts (g.said e nodes (order nodes)) (g.said e nodes (order' nodes)) :=
        g.same_said e nodes fun edge => by rw [ho nodes edge,ho' nodes edge]
      exact hs.bind fun o o' _ _ hsm => hg.same_concluded link e hsm

lemma verdict_of_visiting (hg : g.Identified)
    (hr : (exec (visiting order link types connected) g).1 = .ok o) (hi : i ∈ g.nodes)
    (ht : types.includes (g.attributes i) = .ok true ∨ connected.includes (g.attributes i) = .ok true) :
    i ∈ o.passed ∨ i ∈ o.failed := by
  rw [exec_visiting hg] at hr
  obtain ⟨e,he,hr⟩ := bind_eq_ok.1 hr
  obtain ⟨nodes,-,hr⟩ := bind_eq_ok.1 hr
  obtain ⟨o',-,hr⟩ := bind_eq_ok.1 hr
  cases hr
  exact verdict_of_end link e o' (mem_ends he hi ht) (hg.isAmong_eq (.refl g) i)

lemma visiting_notLinked (order : List Nat → List (Nat × Nat)) (g : Net) :
    exec (visiting order .notLinked types connected) g =
      ((exec (visiting order .linked types connected) g).1.map Outcome.swap,
        (exec (visiting order .linked types connected) g).2) := by
  have hs : visiting order .notLinked types connected = visiting order .linked types connected >>= (pure ·.swap) := by
    simp only [visiting,bind_assoc,pure_bind]
    rfl
  rw [hs,exec_bind]
  rcases exec (visiting order .linked types connected) g with ⟨_ | o,h⟩ <;> rfl

end Run

lemma Net.exists_ofTypes (g : Net) (names : List String) (nodes : List Nat) :
    ∃ vs, g.ofTypes (.oneOf names) nodes = .ok vs := by
  refine ⟨_,filterM_eq_ok.2 ⟨fun i _ => ?_,rfl⟩⟩
  by_cases he : names = []
  · exact ⟨true,by subst he; rfl⟩
  · exact ⟨_,includes_oneOf he _⟩

lemma Net.exists_edgeSays_oneOf (g : Net) (hts : e.types = .oneOf ts)
    (hus : e.connected = .oneOf us) (nodes : List Nat) (u v : Nat) : ∃ p, g.edgeSays e nodes u v = .ok p := by
  unfold edgeSays
  split
  · exact ⟨_,rfl⟩
  split
  · exact ⟨_,rfl⟩
  split
  · split
    · next w _ _ =>
      obtain ⟨b,hb,-⟩ := g.associates_oneOf ts us u w
      rw [hts,hus,hb]
      exact ⟨_,rfl⟩
    · exact ⟨_,rfl⟩
  · exact ⟨_,rfl⟩

lemma Net.exists_said (g : Net) (hts : e.types = .oneOf ts)
    (hus : e.connected = .oneOf us) (nodes : List Nat) (es : List (Nat × Nat)) : ∃ o, g.said e nodes es = .ok o := by
  have ha : ∀ edge ∈ es, ∃ o, (g.edgeSays e nodes edge.1 edge.2).map fst = .ok o := by
    intro edge _
    obtain ⟨p,hp⟩ := g.exists_edgeSays_oneOf hts hus nodes edge.1 edge.2
    exact ⟨p.1,by rw [hp]; rfl⟩
  obtain ⟨os,hos⟩ := exists_mapM_iff.2 ha
  exact ⟨.joined os,by rw [said,hos]; rfl⟩

lemma Run.exists_visiting (hg : g.Identified) (order : List Nat → List (Nat × Nat)) (link : Link)
    (ts us : List String) : ∃ o, (exec (visiting order link (.oneOf ts) (.oneOf us)) g).1 = .ok o := by
  obtain ⟨under,hu⟩ := g.exists_ofTypes ts g.nodes
  obtain ⟨opposite,hop⟩ := g.exists_ofTypes us g.nodes
  have hr : ∃ nodes, g.reduced (.connection link (.oneOf ts) (.oneOf us)) g.nodes = .ok nodes := by
    simp only [reduced,Condition.endTypes,hu,bind,Except.bind]
    split
    · exact ⟨_,rfl⟩
    · exact ⟨_,rfl⟩
  obtain ⟨nodes,hn⟩ := hr
  rw [exec_visiting hg,hn]
  simp only [ends,hu,hop,bind,Except.bind,pure,Except.pure]
  generalize he : Ends.mk (.oneOf ts) (.oneOf us) under opposite _ = e
  have ht : e.types = .oneOf ts := by rw [← he]
  have hc : e.connected = .oneOf us := by rw [← he]
  obtain ⟨o,ho⟩ := g.exists_said ht hc nodes (order nodes)
  exact ⟨_,by rw [ho]⟩

/-- No block gets both verdicts. A connection gives one to every block of its types, in whatever order edges are
visited, and the opposite one where it is not wanted. -/
theorem verdicts_consistent (p : Rule) {g : Net} (hg : g.Identified) :
    (∀ o h, p.apply g = (.ok o,h) → ∀ i ∈ o.passed, i ∉ o.failed) ∧
      ∀ link types connected, p.condition = .connection link types connected →
        (∀ o h, p.apply g = (.ok o,h) → ∀ i ∈ g.nodes,
          types.includes (g.attributes i) = .ok true ∨ connected.includes (g.attributes i) = .ok true →
            i ∈ o.passed ∨ i ∈ o.failed) ∧
        (∀ order, g.Visits order → SameVerdicts (p.apply g).1 (exec (visiting order link types connected) g).1) ∧
        (∀ q : Rule, link = .linked → q.condition = .connection .notLinked types connected →
          q.apply g = ((p.apply g).1.map Outcome.swap,(p.apply g).2)) ∧
        ∀ ts us, types = .oneOf ts → connected = .oneOf us → ∃ o h, p.apply g = (.ok o,h) := by
  refine ⟨fun o h hrun => consistent_policy hg hrun,fun link types connected hp => ?_⟩
  have happly : ∀ {q : Rule} {link}, q.condition = .connection link types connected →
      q.apply g = exec (visiting g.edgesInOrder link types connected) g := by
    intro q link hq
    rw [← exec_policy_visiting,← hq]
    rfl
  rw [happly hp]
  refine ⟨fun o h hrun i => ?_,fun order => ?_,?_,?_⟩
  · exact verdict_of_visiting hg (by rw [hrun])
  · exact same_visiting hg g.visits_edgesInOrder
  · rintro q rfl hq
    rw [happly hq,visiting_notLinked]
  · rintro ts us rfl rfl
    obtain ⟨o,ho⟩ := exists_visiting hg g.edgesInOrder link ts us
    exact ⟨o,_,Prod.ext ho rfl⟩

lemma identified_crossedNet : crossedNet.Identified := by
  have htexts : ∀ i ∈ crossedNet.nodes, ∀ key ∈ ["id_","file_path_"], (crossedNet.text? i key).isSome := by decide +kernel
  exact ⟨fun i hi key hk => Option.isSome_iff_exists.1 (htexts i hi key hk),by decide +kernel⟩

def linkedHosts : Rule := policyOn (.conj [.attr ⟨.oneOf ["host"],.equals,some "id_","host.e",false⟩,
    .disj [.connection .linked (.oneOf ["host"]) (.oneOf ["net"]),.connection .linked (.oneOf ["host"]) (.oneOf ["host"])]])

/-- The first host leads to a net and has the wrong id: it only fails. A connection is found in the other order too. -/
theorem verdicts_consistent_crossed :
    (∃ o h, linkedHosts.apply crossedNet = (.ok o,h) ∧ o = ⟨[4,1,6],[0,2,5]⟩ ∧ ∀ i ∈ o.passed, i ∉ o.failed) ∧
      SameVerdicts ((policyOn (.connection .linked (.oneOf ["host"]) (.oneOf ["net"]))).apply crossedNet).1
        (exec (visiting (fun nodes => (crossedNet.edgesInOrder nodes).reverse) .linked (.oneOf ["host"]) (.oneOf ["net"]))
          crossedNet).1 := by
  have hverdicts : (linkedHosts.apply crossedNet).1.toOption = some ⟨[4,1,6],[0,2,5]⟩ := by decide +kernel
  generalize hrun : linkedHosts.apply crossedNet = r at hverdicts
  obtain ⟨answer,h⟩ := r
  cases answer with
  | error f => cases hverdicts
  | ok o =>
    refine ⟨⟨o,h,rfl,Option.some.inj hverdicts,?_⟩,?_⟩
    · exact (verdicts_consistent linkedHosts identified_crossedNet).1 o h hrun
    · refine ((verdicts_consistent (policyOn (.connection .linked (.oneOf ["host"]) (.oneOf ["net"])))
        identified_crossedNet).2 _ _ _ rfl).2.1 _ fun nodes edge => ?_
      rw [List.mem_reverse,mem_edgesInOrder]

end InfraAudit.Policy
