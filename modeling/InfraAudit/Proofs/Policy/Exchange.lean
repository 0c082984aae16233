import InfraAudit.Proofs.Policy.Labels

namespace InfraAudit.Policy

open List Net Tally Condition

variable {vs : List Nat} {acc : List Nat × List Tally}

structure Outcome.SameOnce (o o' : Outcome) : Prop where
  passed : Policy.SameOnce o.passed o'.passed
  failed : Policy.SameOnce o.failed o'.failed

namespace Outcome.SameOnce

variable {o o' p p' : Outcome}

lemma refl (o : Outcome) : o.SameOnce o := ⟨rfl,rfl⟩

lemma append (h : o.SameOnce o') (hp : p.SameOnce p') : (o.append p).SameOnce (o'.append p') :=
  ⟨h.passed.append hp.passed,h.failed.append hp.failed⟩

lemma same (h : o.SameOnce o') : o.Same o' := ⟨h.passed.mem_iff,h.failed.mem_iff⟩

end Outcome.SameOnce

namespace Run

section

variable {α β α' β' : Type} {rel : α → β → Prop} {rel' : α' → β' → Prop} {h : Net}

/-- Both give related results and leave the same net, or both fail. -/
def Like (rel : α → β → Prop) (h : Net) (x : Run α) (y : Run β) : Prop :=
  Agree (fun a b => rel a b ∧ (exec x h).2 = (exec y h).2) (exec x h).1 (exec y h).1

variable {f : α → Run α'} {f' : β → Run β'} {r : Result α} {r' : Result β}

lemma Like.agree (hxy : Like rel h x y) : Agree rel (exec x h).1 (exec y h).1 := Agree.mono (fun _ _ hab => hab.1) hxy

lemma like_refl {rel : α → α → Prop} (hr : ∀ a, rel a a) (x : Run α) : Like rel h x x := by
  unfold Like
  cases (exec x h).1 with
  | error e => trivial
  | ok a => exact ⟨hr a,rfl⟩

lemma like_of_exec (hx : exec x h = (.ok a,k))
    (hy : exec y h = (.ok b,k)) (hab : rel a b) : Like rel h x y := by
  rw [Like,hx,hy]
  exact ⟨hab,rfl⟩

lemma Like.bind (hxy : Like rel h x y)
    (hf : ∀ a b k, exec x h = (.ok a,k) → exec y h = (.ok b,k) → rel a b → Like rel' k (f a) (f' b)) :
    Like rel' h (x >>= f) (y >>= f') := by
  unfold Like at hxy
  rw [Like,exec_bind,exec_bind]
  generalize hx : exec x h = r at hxy
  generalize hy : exec y h = r' at hxy
  obtain ⟨answer,k⟩ := r
  obtain ⟨answer',k'⟩ := r'
  obtain ⟨a,b,rfl,rfl,hab,hk⟩ | ⟨e,e',rfl,rfl⟩ := agree_iff.1 hxy
  · obtain rfl : k = k' := hk
    exact hf a b k hx hy hab
  · trivial

lemma like_bind_same {f' : α → Run β'}
    (hf : ∀ a k, exec x h = (.ok a,k) → Like rel' k (f a) (f' a)) : Like rel' h (x >>= f) (x >>= f') :=
  have hs : Like Eq h x x := like_refl (fun _ => rfl) x
  hs.bind fun a _ k hx _ hab => hab ▸ hf a k hx

lemma like_get_bind {f : Net → Run α} {f' : Net → Run β} (hf : Like rel h (f h) (f' h)) :
    Like rel h (get >>= f) (get >>= f') := by
  rw [Like,exec_get_bind,exec_get_bind]
  exact hf

lemma like_lift (hr : Agree rel r r') : Like rel h (liftM r) (liftM r') := by
  rw [Like,exec_lift,exec_lift]
  exact hr.mono fun _ _ hab => ⟨hab,rfl⟩

lemma like_lift_bind {f' : α → Run β'}
    (hf : ∀ a, r = .ok a → Like rel' h (f a) (f' a)) : Like rel' h (liftM r >>= f) (liftM r >>= f') := by
  rw [Like,exec_bind,exec_bind,exec_lift]
  cases r with
  | error e => trivial
  | ok a => exact hf a rfl

lemma like_ok_bind (hr : r = .ok a) (hr' : r' = .ok b) (hf : Like rel' h (f a) (f' b)) :
    Like rel' h (liftM r >>= f) (liftM r' >>= f') := by
  rw [hr,hr',Like,exec_bind,exec_bind,exec_lift,exec_lift]
  exact hf

end

end Run

lemma agree_filterM (h : SameOnce vs vs') : Agree SameOnce (vs.filterM p) (vs'.filterM p) := by
  by_cases ha : ∀ i ∈ vs, ∃ b, p i = .ok b
  · have ha' : ∀ i ∈ vs', ∃ b, p i = .ok b := fun i hi => ha i ((h.mem_iff i).2 hi)
    rw [filterM_eq_ok.2 ⟨ha,rfl⟩,filterM_eq_ok.2 ⟨ha',rfl⟩]
    exact h.filter _
  · have her : ∀ ws : List Nat, (∀ i, i ∈ vs ↔ i ∈ ws) → ∃ e, ws.filterM p = .error e := by
      intro ws hws
      cases hr : ws.filterM p with
      | error e => exact ⟨e,rfl⟩
      | ok ws' => exact absurd (fun i hi => (filterM_eq_ok.1 hr).1 i ((hws i).1 hi)) ha
    obtain ⟨e,he⟩ := her vs fun _ => Iff.rfl
    obtain ⟨e',he'⟩ := her vs' h.mem_iff
    rw [he,he']
    trivial

namespace Net

variable {g : Net}

lemma agree_filtered (h : SameOnce vs vs') : Agree SameOnce (g.filtered cs vs) (g.filtered cs vs') := by
  unfold filtered
  induction cs.filterMap filter? generalizing vs vs' with
  | nil => exact h
  | cons f fs ih =>
    rw [foldlM_cons,foldlM_cons]
    exact (agree_filterM h).bind fun ws ws' _ _ hws => ih hws

end Net

namespace Condition

variable {c c' : Condition} {cs cs' : List Condition}

/-- They ask the same of a block of the same types. -/
structure Alike (c c' : Condition) : Prop where
  holdsAt : c.holdsAt = c'.holdsAt
  typeNames : c.typeNames = c'.typeNames
  isConnected : c.isConnected = c'.isConnected

/-- They may stand for each other wherever a run on the net comes to them. -/
structure Exchangeable (g : Net) (c c' : Condition) : Prop extends Alike c c' where
  filter : c.filter? = c'.filter?
  ends : endTypesOf [c] = endTypesOf [c']
  endTypes : c.isConnected → c.endTypes = c'.endTypes
  alone : ∀ nodes, Run.alone c nodes = Run.alone c' nodes
  connect : c.isConnected → ∀ h nodes ex, g.Extends h → nodes ⊆ g.nodes →
    Run.Like Outcome.SameOnce h (Run.connect c nodes ex) (Run.connect c' nodes ex)

lemma Exchangeable.refl (g : Net) (c : Condition) : Exchangeable g c c :=
  ⟨⟨rfl,rfl,rfl⟩,rfl,rfl,fun _ => rfl,fun _ => rfl,fun _ _ _ _ _ _ => Run.like_refl .refl _⟩

lemma endTypesOf_cons (c : Condition) (cs : List Condition) :
    endTypesOf (c::cs) = ((endTypesOf [c]).1 ++ (endTypesOf cs).1,(endTypesOf [c]).2 ++ (endTypesOf cs).2) := by
  cases c with
  | attr t => simp [endTypesOf]
  | connection _ _ _ | filter _ _ _ | conj _ | disj _ | negation _ =>
    simp only [endTypesOf]
    split <;> simp

namespace Exchangeable

variable (h : Forall₂ (Exchangeable g) cs cs')

include h

lemma holdAt_eq (all : Bool) : holdAt all cs = holdAt all cs' := by
  induction h with
  | nil => rfl
  | cons hc _ ih => rw [holdAt,holdAt,hc.holdsAt,ih]

lemma typeNamesOf_eq : typeNamesOf cs = typeNamesOf cs' := by
  induction h with
  | nil => rfl
  | cons hc _ ih => rw [typeNamesOf,typeNamesOf,hc.typeNames,ih]

lemma anyConnected_eq : anyConnected cs = anyConnected cs' := by
  induction h with
  | nil => rfl
  | cons hc _ ih => rw [anyConnected,anyConnected,hc.isConnected,ih]

lemma filters_eq : cs.filterMap filter? = cs'.filterMap filter? := by
  induction h with
  | nil => rfl
  | cons hc _ ih => rw [filterMap_cons,filterMap_cons,hc.filter,ih]

lemma endTypesOf_eq : endTypesOf cs = endTypesOf cs' := by
  induction h with
  | nil => rfl
  | @cons c c' _ _ hc _ ih => rw [endTypesOf_cons c,endTypesOf_cons c',hc.ends,ih]

lemma unconnected_eq (nodes : List Nat) : Run.unconnected cs nodes = Run.unconnected cs' nodes := by
  induction h with
  | nil => rfl
  | @cons c c' _ _ hc _ ih => rw [Run.unconnected_cons c,Run.unconnected_cons c',hc.alone,ih]

end Exchangeable

end Condition

namespace Run

variable {g h k : Net} {nodes : List Nat} {cs cs' : List Condition}

lemma connect_congr (hex : ∀ i, i ∈ ex ↔ i ∈ ex') (c : Condition) (nodes : List Nat) :
    connect c nodes ex = connect c nodes ex' := by
  have ha : ∀ (g : Net) i, g.isAmong i ex = g.isAmong i ex' := by
    intro g i
    rw [Bool.eq_iff_iff]
    simp only [isAmong,Bool.or_eq_true,contains_iff_mem,any_eq_true,hex]
  cases c with
  | connection link types connected => simp only [connect,ends,ha]
  | attr _ | filter _ _ _ | conj _ | disj _ | negation _ => simp only [connect]

structure SoFar (g : Net) (nodes : List Nat) (acc acc' : Outcome × List Value) : Prop where
  once : acc.1.SameOnce acc'.1
  within : acc.1.Within nodes
  within' : acc'.1.Within nodes
  ids : acc.2 = acc.1.failed.map (g.label "id_")
  ids' : acc'.2 = acc'.1.failed.map (g.label "id_")

variable {acc acc' : Outcome × List Value}

variable (hg : g.Labelled) (hn : nodes ⊆ g.nodes)

include hg hn

lemma ids_after (he : g.Extends k) (hvs : ∀ i ∈ vs, i ∈ nodes) : k.ids vs = .ok (vs.map (g.label "id_")) := by
  rw [← he.label_eq (by decide)]
  exact (hg.of_extends he).ids_eq fun i hi => he.nodes_eq ▸ hn (hvs i hi)

lemma like_connectAll (hcs : Forall₂ (Exchangeable g) cs cs') (he : g.Extends k) (ha : SoFar g nodes acc acc') :
    Like (SoFar g nodes) k (connectAll cs types late nodes acc) (connectAll cs' types late nodes acc') := by
  induction hcs generalizing k acc acc' with
  | nil =>
    rw [connectAll,connectAll]
    exact like_of_exec rfl rfl ha
  | @cons c c' cs cs' hc _ ih =>
    obtain ⟨o,ids⟩ := acc
    obtain ⟨o',ids'⟩ := acc'
    have ht : (c'.isConnected && isLate types c' == late) = (c.isConnected && isLate types c == late) := by
      rw [← hc.isConnected]
      cases hcn : c.isConnected with
      | false => rfl
      | true => rw [isLate,isLate,hc.endTypes hcn]
    rw [connectAll,connectAll,ht]
    split
    · next hnw =>
      rw [Bool.and_eq_true] at hnw
      rw [connect_congr (fun i => (ha.once.failed.mem_iff i).symm) c']
      refine (hc.connect hnw.1 k nodes _ he hn).bind fun p p' k' hrn hrn' hp => like_get_bind ?_
      have he' : g.Extends k' := grows_connect.after he hrn
      have hw := within_connect c hrn
      have hw' := within_connect c' hrn'
      refine like_ok_bind (ids_after hg hn he' hw.failed) (ids_after hg hn he' hw'.failed) ?_
      refine ih he' ⟨ha.once.append hp,ha.within.append hw,ha.within'.append hw',?_,?_⟩
      · exact (congrArg (· ++ _) ha.ids).trans map_append.symm
      · exact (congrArg (· ++ _) ha.ids').trans map_append.symm
    · exact ih he ha

end Run

lemma Net.agree_kept {g : Net} (hg : g.Labelled) {nodes : List Nat} (hn : nodes ⊆ g.nodes)
    (hcs : cs.filterMap filter? = cs'.filterMap filter?) {o o' : Outcome} (ho : o.SameOnce o') (hin : o.Within nodes)
    (hin' : o'.Within nodes) : Agree Outcome.SameOnce (g.kept cs o) (g.kept cs' o') := by
  have hfd : ∀ vs, g.filtered cs' vs = g.filtered cs vs := fun vs => by rw [filtered,filtered,hcs]
  rw [kept,kept]
  simp only [hfd]
  refine (agree_filtered ho.passed).bind fun ps ps' hps hps' hp => ?_
  refine (agree_filtered ho.failed).bind fun fs fs' hfs hfs' hf => ?_
  have hk : ∀ {vs ws : List Nat}, g.filtered cs vs = .ok ws → (∀ i ∈ vs, i ∈ nodes) → ∀ i ∈ ws, i ∈ g.nodes :=
    fun hws hvs i hi => hn (hvs i (subset_of_filtered hws hi))
  rw [hg.distinct_eq (hk hps hin.passed),hg.distinct_eq (hk hps' hin'.passed),
    hg.distinct_eq (hk hfs hin.failed),hg.distinct_eq (hk hfs' hin'.failed)]
  show Outcome.SameOnce _ _
  rw [hp,hf]
  exact .refl _

namespace Run

variable {g h k : Net} {nodes : List Nat} {cs cs' : List Condition}

structure FoundSoFar (nodes : List Nat) (acc acc' : List Nat × List Tally) : Prop where
  once : SameOnce acc.1 acc'.1
  within : ∀ i ∈ acc.1, i ∈ nodes
  tallies : entries acc.2 = entries acc'.2
  known : ∀ t ∈ acc.2, t.vertex ∈ nodes
  known' : ∀ t ∈ acc'.2, t.vertex ∈ nodes

lemma filter_added (tallies : List Tally) (n : Nat) (passed linked : List Nat) :
    (((tallies.filter fun t => t.count == n || !linked.contains t.vertex).map (·.vertex)).filter fun i =>
        !(passed ++ linked).contains i) =
      ((entries tallies).map Prod.snd).filter fun i => !(passed ++ linked).contains i := by
  rw [entries,map_map,filter_map,filter_map,filter_filter]
  refine congrArg (List.map _) (filter_congr fun t _ => ?_)
  simp only [Function.comp_apply]
  by_cases ht : t.vertex ∈ passed ++ linked
  · simp [ht]
  · have hl : t.vertex ∉ linked := fun hm => ht (mem_append_right _ hm)
    simp [ht,hl]

variable (hg : g.Labelled) (hn : nodes ⊆ g.nodes)

include hg hn

lemma withoutIds_after (he : g.Extends k) {o : Outcome} (ho : o.Within nodes) :
    k.withoutIds o.passed (o.failed.map (g.label "id_")) = .ok (o.passed.filter fun i => !o.failed.contains i) := by
  rw [← he.label_eq (by decide)]
  exact (hg.of_extends he).withoutIds_eq (fun i hi => he.nodes_eq ▸ hn (ho.passed i hi))
    fun i hi => he.nodes_eq ▸ hn (ho.failed i hi)

lemma like_conj (hcs : Forall₂ (Exchangeable g) cs cs') (hex : g.Extends h) (ex ex' : List Nat) :
    Like Outcome.SameOnce h (connect (.conj cs) nodes ex) (connect (.conj cs') nodes ex') := by
  rw [connect,connect,endTypes,endTypes,← Exchangeable.endTypesOf_eq hcs]
  refine like_get_bind (like_lift_bind fun members _ => ?_)
  split
  · exact like_refl .refl _
  rw [← Exchangeable.unconnected_eq hcs]
  refine like_bind_same fun o k hr => ?_
  have hext₁ : g.Extends k := grows_unconnected.after hex hr
  have hw := within_unconnected hr
  have hi := ids_after hg hn hext₁ hw.failed
  have hps := withoutIds_after hg hn hext₁ hw
  refine like_get_bind (like_ok_bind hi hi (like_get_bind (like_ok_bind hps hps ?_)))
  rw [keptTypes,keptTypes,← Exchangeable.filters_eq hcs]
  refine like_lift_bind fun types _ => ?_
  have hstart := hw.withoutFailed
  refine (like_connectAll hg hn hcs hext₁ ⟨.refl _,hstart,hstart,rfl,rfl⟩).bind fun acc₁ acc₁' k₁ her _ hacc₁ => ?_
  have hext₂ : g.Extends k₁ := grows_connectAll.after hext₁ her
  refine (like_connectAll hg hn hcs hext₂ hacc₁).bind fun acc₂ acc₂' k₂ hlt _ hacc₂ => ?_
  have hext₃ : g.Extends k₂ := grows_connectAll.after hext₂ hlt
  obtain ⟨p,ids⟩ := acc₂
  obtain ⟨p',ids'⟩ := acc₂'
  obtain ⟨hon,hin,hin',hids₂,hids₂'⟩ := hacc₂
  obtain rfl : ids = p.failed.map (g.label "id_") := hids₂
  obtain rfl : ids' = p'.failed.map (g.label "id_") := hids₂'
  refine like_get_bind (like_ok_bind (withoutIds_after hg hn hext₃ hin) (withoutIds_after hg hn hext₃ hin') ?_)
  refine like_get_bind (like_lift ?_)
  have hf : SameOnce (p.passed.filter fun i => !p.failed.contains i) (p'.passed.filter fun i => !p'.failed.contains i) := by
    simp only [← hon.failed.contains_eq]
    exact hon.passed.filter _
  exact agree_kept (hg.of_extends hext₃) (hext₃.nodes_eq ▸ hn) (Exchangeable.filters_eq hcs) ⟨hf,hon.failed⟩
    hin.withoutFailed hin'.withoutFailed

lemma tallied_after (he : g.Extends k)
    (hp : ∀ i ∈ passed, i ∈ nodes) (hf : ∀ i ∈ failed, i ∈ nodes) (tallies : List Tally) :
    k.tallied passed failed tallies =
      .ok ((failed.filter fun i => !passed.contains i).foldl (fun ts i => add (g.label "hash" i) i ts) tallies) := by
  rw [← he.label_eq (by decide)]
  exact (hg.of_extends he).tallied_eq (fun i hi => he.nodes_eq ▸ hn (hf i hi))
    (fun i hi => he.nodes_eq ▸ hn (hp i hi)) tallies

lemma like_connectAny (hcs : Forall₂ (Exchangeable g) cs cs') (he : g.Extends k) (ha : FoundSoFar nodes acc acc') :
    Like (FoundSoFar nodes) k (connectAny cs nodes acc) (connectAny cs' nodes acc') := by
  induction hcs generalizing k acc acc' with
  | nil =>
    rw [connectAny,connectAny]
    exact like_of_exec rfl rfl ha
  | @cons c c' cs cs' hc _ ih =>
    obtain ⟨passed,tallies⟩ := acc
    obtain ⟨passed',tallies'⟩ := acc'
    rw [connectAny,connectAny,← hc.isConnected]
    split
    · next hcn =>
      refine (hc.connect hcn k nodes [] he hn).bind fun o o' k' hrn hrn' ho => like_get_bind ?_
      have he' : g.Extends k' := grows_connect.after he hrn
      have hin := within_connect c hrn
      have hin' := within_connect c' hrn'
      have hon : SameOnce (passed ++ o.passed) (passed' ++ o'.passed) := ha.once.append ho.passed
      have hps : ∀ i ∈ passed ++ o.passed, i ∈ nodes := forall_mem_append.2 ⟨ha.within,hin.passed⟩
      have hps' : ∀ i ∈ passed' ++ o'.passed, i ∈ nodes := fun i hi => hps i ((hon.mem_iff i).2 hi)
      have ht := tallied_after hg hn he' hps hin.failed tallies
      have ht' := tallied_after hg hn he' hps' hin'.failed tallies'
      refine like_ok_bind ht ht' (ih he' ⟨hon,hps,?_,?_,?_⟩)
      · have hf : SameOnce (o.failed.filter fun i => !(passed ++ o.passed).contains i)
            (o'.failed.filter fun i => !(passed' ++ o'.passed).contains i) := by
          simp only [← hon.contains_eq]
          exact ho.failed.filter _
        refine entries_foldl_add hf (fun i hi => ?_) ha.tallies
        exact hg.eq_label (hn (hin.failed i (mem_of_mem_filter hi))) (by simp)
      · exact within_tallied ht hin.failed ha.known
      · exact within_tallied ht' hin'.failed ha.known'
    · exact ih he ha

lemma notPassed_after (he : g.Extends k) (hf : ∀ i ∈ failed, i ∈ nodes) (hp : ∀ i ∈ passed, i ∈ nodes) :
    k.notPassed failed passed = .ok (failed.filter fun i => !passed.contains i) :=
  (hg.of_extends he).notPassed_eq (fun i hi => he.nodes_eq ▸ hn (hf i hi))
    fun i hi => he.nodes_eq ▸ hn (hp i hi)

lemma like_disj (hcs : Forall₂ (Exchangeable g) cs cs') (hex : g.Extends h) (ex ex' : List Nat) :
    Like Outcome.SameOnce h (connect (.disj cs) nodes ex) (connect (.disj cs') nodes ex') := by
  rw [connect,connect,← Exchangeable.unconnected_eq hcs]
  refine like_bind_same fun o k hr => ?_
  have hext₁ : g.Extends k := grows_unconnected.after hex hr
  have hw := within_unconnected hr
  have hf := notPassed_after hg hn hext₁ hw.failed hw.passed
  refine like_get_bind (like_ok_bind hf hf ?_)
  have hs : FoundSoFar nodes ([],[]) ([],[]) := ⟨rfl,by simp,rfl,by simp,by simp⟩
  refine (like_connectAny hg hn hcs hext₁ hs).bind fun acc acc' k₁ hl _ hac => like_get_bind ?_
  have hext₂ : g.Extends k₁ := grows_connectAny.after hext₁ hl
  obtain ⟨linked,tallies⟩ := acc
  obtain ⟨linked',tallies'⟩ := acc'
  obtain ⟨hon,hin,he,hk,hk'⟩ := hac
  have ha : ∀ i vs, k₁.isAmong i vs = vs.contains i := hext₂.isAmong_eq hg.identified.toldApart
  have hps : SameOnce (o.passed ++ linked) (o.passed ++ linked') := SameOnce.append rfl hon
  have hpd : ∀ i ∈ o.passed ++ linked, i ∈ nodes := forall_mem_append.2 ⟨hw.passed,hin⟩
  have hpd' : ∀ i ∈ o.passed ++ linked', i ∈ nodes := fun i hi => hpd i ((hps.mem_iff i).2 hi)
  have hfl : ∀ i ∈ o.failed.filter fun i => !o.passed.contains i, i ∈ nodes := fun i hi => hw.failed i (mem_of_mem_filter hi)
  refine like_ok_bind (notPassed_after hg hn hext₂ (within_added hfl hk) hpd)
    (notPassed_after hg hn hext₂ (within_added hfl hk') hpd') (like_lift ?_)
  refine agree_kept (hg.of_extends hext₂) (hext₂.nodes_eq ▸ hn) (Exchangeable.filters_eq hcs) ⟨hps,?_⟩
    ⟨hpd,fun i hi => within_added hfl hk i (mem_of_mem_filter hi)⟩
    ⟨hpd',fun i hi => within_added hfl hk' i (mem_of_mem_filter hi)⟩
  simp only [ha,filter_append,filter_added,← he]
  simp only [← hps.contains_eq]
  rfl

end Run

end InfraAudit.Policy
