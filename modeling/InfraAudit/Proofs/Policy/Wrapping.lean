import InfraAudit.Proofs.Policy.Exchange

/-!
Wrapping a part of a condition into an `and` of its own. Parts that are an `and` themselves, and all where no connections
are around them, give the same verdicts then. A test beside connections does not, as the types of conditions without
connections are not counted once they stand inside another one, nor does a connection, which is no longer told what failed
before it.
-/

namespace InfraAudit.Policy

open List Condition Run Net

variable {c c' : Condition} {cs cs' : List Condition} {members : List Nat}

/-- A condition with a hole. -/
inductive Place where
  | here
  | conj (before : List Condition) (inner : Place) (after : List Condition)
  | disj (before : List Condition) (inner : Place) (after : List Condition)
  | negation (inner : Place)

def Place.fill : Place → Condition → Condition
  | .here,c => c
  | .conj before inner after,c => .conj (before ++ inner.fill c :: after)
  | .disj before inner after,c => .disj (before ++ inner.fill c :: after)
  | .negation inner,c => .negation (inner.fill c)

namespace Condition

lemma anyConnected_append (cs ds : List Condition) : anyConnected (cs ++ ds) = (anyConnected cs || anyConnected ds) := by
  induction cs with
  | nil => rfl
  | cons c cs ih => rw [cons_append,anyConnected,anyConnected,ih,Bool.or_assoc]

lemma alike_wrap (c : Condition) : Alike c (.conj [c]) := by
  have hid : (fun b : Bool => if b then (pure true : Test Bool) else pure b) = pure := by
    funext b
    cases b <;> rfl
  refine ⟨?_,?_,?_⟩
  · rw [holdsAt,holdAt,holdAt]
    exact ((congrArg (c.holdsAt >>= ·) hid).trans (bind_pure _)).symm
  · rw [typeNames,typeNamesOf,typeNamesOf,append_nil]
  · rw [isConnected,anyConnected,anyConnected,Bool.or_false]

namespace Alike

lemma exchange (h : Alike c c') (before after : List Condition) :
    Alike (.conj (before ++ c :: after)) (.conj (before ++ c' :: after)) ∧
      Alike (.disj (before ++ c :: after)) (.disj (before ++ c' :: after)) := by
  have hx : (∀ all, holdAt all (before ++ c :: after) = holdAt all (before ++ c' :: after)) ∧
      typeNamesOf (before ++ c :: after) = typeNamesOf (before ++ c' :: after) := by
    induction before with
    | nil => simp only [nil_append,holdAt,typeNamesOf,h.holdsAt,h.typeNames,implies_true,and_self]
    | cons d before ih => simp only [cons_append,holdAt,typeNamesOf,ih,implies_true,and_self]
  have hc : anyConnected (before ++ c :: after) = anyConnected (before ++ c' :: after) := by
    rw [anyConnected_append,anyConnected_append,anyConnected,anyConnected,h.isConnected]
  exact ⟨⟨hx.1 true,hx.2,hc⟩,⟨hx.1 false,hx.2,hc⟩⟩

lemma fill (h : Alike c c') (place : Place) : Alike (place.fill c) (place.fill c') := by
  induction place with
  | here => exact h
  | conj before inner after ih => exact (ih.exchange before after).1
  | disj before inner after ih => exact (ih.exchange before after).2
  | negation inner ih => exact ⟨congrArg (· >>= fun b => pure !b) ih.holdsAt,ih.typeNames,rfl⟩

lemma passing_eq (h : Alike c c') (nodes : List Nat) : passing c nodes = passing c' nodes := by
  induction nodes with
  | nil => rfl
  | cons i nodes ih => rw [passing,passing,h.holdsAt,ih]

lemma combined_eq (h : Alike c c') (nodes : List Nat) : combined c nodes = combined c' nodes := by
  simp only [combined,h.typeNames,h.passing_eq]

end Alike

def isComposite : Condition → Bool
  | .conj _ | .disj _ | .negation _ => true
  | _ => false

namespace Exchangeable

variable {g : Net}

lemma of_composite (hc : c.isComposite) (hc' : c'.isComposite) (ha : Alike c c')
    (he : c.isConnected → c.endTypes = c'.endTypes)
    (hl : c.isConnected → ∀ h nodes ex, g.Extends h → nodes ⊆ g.nodes →
      Like Outcome.SameOnce h (Run.connect c nodes ex) (Run.connect c' nodes ex)) : Exchangeable g c c' where
  toAlike := ha
  filter := by
    have hnone : ∀ {c : Condition}, c.isComposite → c.filter? = none := by
      intro c hc
      cases c <;> first | rfl | cases hc
    rw [hnone hc,hnone hc']
  ends := by
    have hends : ∀ {c : Condition}, c.isComposite → endTypesOf [c] =
        if c.isConnected then (c.endTypes.1.members,c.endTypes.2.members) else ([],[]) := by
      intro c hc
      cases c with
      | attr _ | connection _ _ _ | filter _ _ _ => cases hc
      | conj _ | disj _ | negation _ => simp [endTypesOf]
    rw [hends hc,hends hc',← ha.isConnected]
    split
    · next hconn => rw [he hconn]
    · rfl
  endTypes := he
  alone nodes := by
    have halone : ∀ {c : Condition}, c.isComposite →
        Run.alone c nodes = if c.isConnected then pure {} else combined c nodes := by
      intro c hc
      cases c with
      | attr _ | connection _ _ _ | filter _ _ _ => cases hc
      | conj _ | disj _ | negation _ => rfl
    rw [halone hc,halone hc',← ha.isConnected,ha.combined_eq]
  connect := hl

section

variable (hg : g.Labelled) (hcs : Forall₂ (Exchangeable g) cs cs')

include hg hcs

lemma of_parts : Exchangeable g (.conj cs) (.conj cs') ∧ Exchangeable g (.disj cs) (.disj cs') := by
  have hends : (Condition.conj cs).endTypes = (Condition.conj cs').endTypes := by
    rw [Condition.endTypes,Condition.endTypes,endTypesOf_eq hcs]
  constructor
  · exact of_composite rfl rfl ⟨holdAt_eq hcs true,typeNamesOf_eq hcs,anyConnected_eq hcs⟩ (fun _ => hends)
      fun _ _ _ ex hext hn => like_conj hg hn hcs hext ex ex
  · exact of_composite rfl rfl ⟨holdAt_eq hcs false,typeNamesOf_eq hcs,anyConnected_eq hcs⟩ (fun _ => hends)
      fun _ _ _ ex hext hn => like_disj hg hn hcs hext ex ex

end

end Exchangeable

end Condition

namespace Run

variable {g h k : Net} {nodes : List Nat}

lemma isLate_nil (c : Condition) : isLate [] c = false := by
  show (c.endTypes.1.members ++ c.endTypes.2.members).any (fun t => (Value.str t).elem []) = false
  simp [Value.elem]

section

variable (hc : (conj cs).isConnected) (hm : h.ofTypes (conj [.conj cs]).endTypes.1 nodes = .ok members) (hne : members ≠ [])

include hc hm hne

lemma exec_connect_wrap (ex : List Nat) : exec (connect (.conj [.conj cs]) nodes ex) h = exec (do
      let p ← connect (.conj cs) nodes []
      let ids ← (← get).ids p.failed
      let passed ← (← get).withoutIds p.passed ids
      (← get).kept [.conj cs] ⟨passed,p.failed⟩) h := by
  have he : members.isEmpty = false := by simpa using hne
  have hu : exec (unconnected [.conj cs] nodes) h = (.ok {},h) := by
    simp only [unconnected,each,alone,hc,if_true]
    rfl
  have hi : h.ids [] = .ok [] := rfl
  have hw : h.withoutIds [] [] = .ok [] := rfl
  have ht : keptTypes [.conj cs] = .ok [] := rfl
  have her : connectAll [.conj cs] [] false nodes (⟨[],[]⟩,[]) = do
      let p ← connect (.conj cs) nodes []
      let ids ← (← get).ids p.failed
      return (p,ids) := by
    simp only [connectAll,hc,isLate_nil,Bool.true_and,beq_self_eq_true,if_true]
    rfl
  have hl : ∀ acc, connectAll [.conj cs] [] true nodes acc = pure acc := by
    rintro ⟨o,ids⟩
    simp only [connectAll,hc,isLate_nil]
    rfl
  rw [connect]
  simp only [exec_bind,exec_get,exec_lift,hm,he,hu,hi,hw,ht,her,hl,exec_pure,Bool.false_eq_true,if_false]
  generalize exec (connect (.conj cs) nodes []) h = r
  obtain ⟨answer,k⟩ := r
  cases answer with
  | error f => rfl
  | ok p =>
    dsimp only
    cases k.ids p.failed <;> rfl

lemma like_wrap_connect (hg : g.Labelled) (hn : nodes ⊆ g.nodes) (he : g.Extends h) (ex : List Nat) :
    Like Outcome.SameOnce h (connect (.conj cs) nodes []) (connect (.conj [.conj cs]) nodes ex) := by
  rw [Like,exec_connect_wrap hc hm hne,exec_bind]
  generalize hr : exec (connect (.conj cs) nodes []) h = r
  obtain ⟨answer,k⟩ := r
  cases answer with
  | error f => trivial
  | ok p =>
    have he' : g.Extends k := grows_connect.after he hr
    have hin := within_connect _ hr
    have hk : p.passed.filter (fun i => !p.failed.contains i) = p.passed := by
      rw [filter_eq_self]
      intro i hi
      simpa using consistent_connect hg.identified he hr i hi
    have hw := withoutIds_after hg hn he' hin
    rw [hk] at hw
    have hkn : ∀ {vs : List Nat}, (∀ i ∈ vs, i ∈ nodes) → ∀ i ∈ vs, i ∈ k.nodes := fun hvs i hi =>
      he'.nodes_eq ▸ hn (hvs i hi)
    have hl : k.kept [.conj cs] p = .ok ⟨p.passed.eraseDups,p.failed.eraseDups⟩ := by
      show (do return ⟨← k.distinct [] p.passed,← k.distinct [] p.failed⟩ : Result Outcome) = _
      rw [(hg.of_extends he').distinct_eq (hkn hin.passed),(hg.of_extends he').distinct_eq (hkn hin.failed)]
      rfl
    simp only [exec_bind,exec_get,exec_lift,ids_after hg hn he' hin.failed,hw,hl]
    exact ⟨⟨.eraseDups _,.eraseDups _⟩,trivial⟩

end

lemma exec_conj_empty (hn : h.ofTypes (conj cs).endTypes.1 nodes = .ok [])
    (ex : List Nat) : exec (connect (.conj cs) nodes ex) h = (.ok {},h) := by
  simp only [connect,exec_bind,exec_get,exec_lift,hn,isEmpty_nil,if_true,exec_pure]

lemma like_wrap (hg : g.Labelled) (hn : nodes ⊆ g.nodes) (hext : g.Extends h) (hc : (conj cs).isConnected)
    (ex : List Nat) : Like Outcome.SameOnce h (connect (.conj cs) nodes ex) (connect (.conj [.conj cs]) nodes ex) := by
  obtain ⟨members,hm⟩ := h.exists_ofTypes (endTypesOf cs).1 nodes
  have hw : h.ofTypes (conj [.conj cs]).endTypes.1 nodes = .ok members := by
    simpa [endTypes,endTypesOf,hc,TypeNames.members] using hm
  by_cases hem : members = []
  · subst hem
    exact like_of_exec (exec_conj_empty hm ex) (exec_conj_empty hw ex) (.refl _)
  · rw [connect]
    simpa only [connect] using like_wrap_connect hc hw hem hg hn hext ex

end Run

/-- An `and` of the part gives its verdicts: it is one itself or has no connections, or what is around it has none. -/
def Place.allows (c : Condition) : Place → Bool
  | .here => match c with
    | .conj _ | .negation _ => true
    | .disj cs => !anyConnected cs
    | _ => false
  | .conj before inner after | .disj before inner after =>
    inner.allows c || !anyConnected (before ++ inner.fill c :: after)
  | .negation _ => true

namespace Place

variable {g : Net}

lemma isComposite_fill (place : Place) (hc : c.isComposite) : (place.fill c).isComposite := by
  cases place with
  | here => exact hc
  | conj _ _ _ | disj _ _ _ | negation _ => rfl

/-- Without connections it is enough that both ask the same. -/
lemma exchangeable_of_unconnected (place : Place) (hc : (place.fill c).isComposite)
    (hn : (place.fill c).isConnected = false) : Exchangeable g (place.fill c) (place.fill (.conj [c])) :=
  .of_composite hc (place.isComposite_fill rfl) (c.alike_wrap.fill place) (fun h => by simp [hn] at h)
    fun h => by simp [hn] at h

lemma exchangeable (hg : g.Labelled) (place : Place) (hp : place.allows c) :
    (place.fill c).isComposite ∧ Exchangeable g (place.fill c) (place.fill (.conj [c])) := by
  have hparts {d d' : Condition} (hd : Exchangeable g d d') (before after : List Condition) :
      Forall₂ (Exchangeable g) (before ++ d :: after) (before ++ d' :: after) :=
    rel_append (forall₂_same.2 fun c _ => .refl g c) (.cons hd (forall₂_same.2 fun c _ => .refl g c))
  induction place with
  | here =>
    cases c with
    | attr _ | connection _ _ _ | filter _ _ _ => cases hp
    | conj cs =>
      refine ⟨rfl,.of_composite rfl rfl (alike_wrap _) (fun hc => ?_) fun hc h nodes ex hext hn => like_wrap hg hn hext hc ex⟩
      have hc : (Condition.conj cs).isConnected := hc
      simp [fill,endTypes,endTypesOf,hc,TypeNames.members]
    | disj cs => exact ⟨rfl,exchangeable_of_unconnected .here rfl ((Bool.not_eq_true' _).mp hp)⟩
    | negation d => exact ⟨rfl,exchangeable_of_unconnected .here rfl rfl⟩
  | conj before inner after ih =>
    refine ⟨rfl,?_⟩
    rcases Bool.or_eq_true_iff.1 hp with hp | hn
    · exact (Exchangeable.of_parts hg (hparts (ih hp).2 before after)).1
    · exact exchangeable_of_unconnected (.conj before inner after) rfl ((Bool.not_eq_true' _).mp hn)
  | disj before inner after ih =>
    refine ⟨rfl,?_⟩
    rcases Bool.or_eq_true_iff.1 hp with hp | hn
    · exact (Exchangeable.of_parts hg (hparts (ih hp).2 before after)).2
    · exact exchangeable_of_unconnected (.disj before inner after) rfl ((Bool.not_eq_true' _).mp hn)
  | negation inner ih => exact ⟨rfl,exchangeable_of_unconnected (.negation inner) rfl rfl⟩

end Place

lemma Run.exec_policy_composite (hc : c.isComposite) (g : Net) : exec (policy c) g =
    exec (if c.isConnected then do connect c (← g.reduced c g.nodes) [] else alone c g.nodes) g := by
  cases c with
  | attr _ | connection _ _ _ | filter _ _ _ => cases hc
  | conj _ | disj _ | negation _ => rw [policy,exec_get_bind]

/-- A part may be wrapped into an `and` of its own if it is one itself or a negation, or a choice without connections, or if
it stands in a condition without connections. -/
theorem wrapped_part_same_verdicts {p p' : Rule} {place : Place} {c : Condition} (hplace : place.allows c)
    (hp : p.condition = place.fill c) (hp' : p'.condition = place.fill (.conj [c])) {g : Net} (hg : g.Labelled) :
    SameVerdicts (p.apply g).1 (p'.apply g).1 := by
  show SameVerdicts (exec (policy p.condition) g).1 (exec (policy p'.condition) g).1
  obtain ⟨hc,hex⟩ := place.exchangeable hg hplace
  rw [hp,hp',exec_policy_composite hc,exec_policy_composite (place.isComposite_fill rfl),← hex.isConnected]
  split
  · next hconnected =>
    have hreduced : g.reduced (place.fill (.conj [c])) g.nodes = g.reduced (place.fill c) g.nodes := by
      rw [reduced,reduced,hex.endTypes hconnected]
    have hlike : Like Outcome.SameOnce g (do connect (place.fill c) (← g.reduced (place.fill c) g.nodes) [])
        (do connect (place.fill (.conj [c])) (← g.reduced (place.fill c) g.nodes) []) :=
      like_lift_bind fun nodes hnodes =>
        hex.connect hconnected g nodes [] (.refl g) (sublist_of_reduced hnodes).subset
    rw [hreduced]
    exact hlike.agree.mono fun o o' => Outcome.SameOnce.same
  · have hlike : Like Eq g (alone (place.fill c) g.nodes) (alone (place.fill (.conj [c])) g.nodes) := by
      rw [hex.alone]
      exact like_refl (fun _ => rfl) _
    exact hlike.agree.mono fun o o' ho => ho ▸ (Outcome.SameOnce.refl o).same

def hostToHost : Condition := .connection .linked (.oneOf ["host"]) (.oneOf ["host"])

def netsLinked : Condition := .conj [.attr ⟨.oneOf ["net"],.equals,some "id_","net.g",false⟩,hostToHost]

/-- The wrapped part is one of two ways for hosts and nets to pass. -/
theorem wrapped_part_same_verdicts_crossed :
    SameVerdicts ((policyOn (.disj [netsLinked,hostToHost])).apply crossedNet).1
        ((policyOn (.disj [.conj [netsLinked],hostToHost])).apply crossedNet).1 ∧
      ((policyOn (.disj [netsLinked,hostToHost])).apply crossedNet).1.toOption = some ⟨[6,2,4],[1,5,0]⟩ := by
  have hplace : (Place.disj [] .here [hostToHost]).allows netsLinked := rfl
  exact ⟨wrapped_part_same_verdicts hplace rfl rfl (labelled_of_isSome (by decide +kernel)),by decide +kernel⟩

def queueNet : Net :=
  .ofParts [typedBlock "resource" "host.a" "host",typedBlock "resource" "net.b" "net",typedBlock "resource" "queue.c" "queue"] [(0,1)]

def queueTest : Condition := .attr ⟨.oneOf ["queue"],.present,some "name",.null,false⟩

def hostToNet : Condition := .connection .linked (.oneOf ["host"]) (.oneOf ["net"])

def besideConnection : Place := .conj [] .here [hostToNet]

def besideHost : Place := .conj [.attr ⟨.oneOf ["host"],.equals,some "id_","host.z",false⟩] .here []

/-- The types of a test are not asked for once it is wrapped, so that the queue that fails it is not looked at. A net fails
with the host that leads to it, and for want of a host, unless the connection is wrapped. -/
theorem wrapping_changes_verdicts : queueNet.Labelled ∧
      ((policyOn (besideConnection.fill queueTest)).apply queueNet).1.toOption = some ⟨[0,1],[2]⟩ ∧
      ((policyOn (besideConnection.fill (.conj [queueTest]))).apply queueNet).1.toOption = some ⟨[0,1],[]⟩ ∧
      ((policyOn (besideHost.fill hostToNet)).apply queueNet).1.toOption = some ⟨[],[0,1]⟩ ∧
      ((policyOn (besideHost.fill (.conj [hostToNet]))).apply queueNet).1.toOption = some ⟨[1],[0]⟩ ∧
      ((policyOn (Place.here.fill hostToNet)).apply (.ofParts [typedBlock "resource" "net.b" "net"] [])).1.toOption =
        some ⟨[],[0]⟩ ∧ ((policyOn (Place.here.fill (.conj [hostToNet]))).apply
        (.ofParts [typedBlock "resource" "net.b" "net"] [])).1.toOption = some ⟨[],[]⟩ :=
  ⟨labelled_of_isSome (by decide +kernel),by decide +kernel,by decide +kernel,by decide +kernel,by decide +kernel,
    by decide +kernel,by decide +kernel⟩

end InfraAudit.Policy
