import InfraAudit.Proofs.Policy.Tests

namespace InfraAudit.Policy

open List TypeNames Condition

variable {c : Condition}

def blockType? (block : Fields) : Option String := (block.lookup "resource_type").bind Value.text?

def OfType (names : List String) (block : Fields) : Prop := ∃ name ∈ names, blockType? block = some name

def isOfType (names : List String) (block : Fields) : Bool := (blockType? block).any names.contains

lemma isOfType_iff (names : List String) (block : Fields) : isOfType names block ↔ OfType names block := by
  simp only [isOfType,OfType]
  cases blockType? block with
  | none => simp
  | some name => simp

lemma includes_oneOf (hne : names ≠ []) (block : Fields) :
    (oneOf names).includes block = .ok (isOfType names block) := by
  have he : (TypeNames.oneOf names).isEmpty = false := by simpa [TypeNames.isEmpty] using hne
  simp only [includes,he,Bool.false_eq_true,if_false,isOfType,blockType?]
  cases block.lookup "resource_type" with
  | none => rfl
  | some type =>
    simp only [has,Option.bind_some]
    cases type.text? <;> rfl

namespace AttributeTest

variable {t : AttributeTest}

def Satisfied (t : AttributeTest) (block : Fields) : Prop :=
  ∃ keys, t.look block = .ok (block,keys) ∧ ∃ k ∈ t.asked keys, t.holdsFor block k = .ok true

/-- The attributes to ask about can be found, and on a block of the types the operator fails on none of them. -/
def Answers (t : AttributeTest) (block : Fields) : Prop :=
  ∃ keys, t.look block = .ok (block,keys) ∧
    (OfType t.types.members block → ∀ k ∈ t.asked keys, ∃ b, t.holdsFor block k = .ok b)

lemma answers_of_query? (h : t.query? = none) (hh : ∃ b, t.holdsFor block t.attribute? = .ok b) : t.Answers block :=
  ⟨[],by rw [look,h],fun _ k hk => mem_singleton.1 hk ▸ hh⟩

lemma settle_of_answers (hp : t.byPath = false)
    (h : ∀ k ∈ ks, ∃ b, t.holdsFor block k = .ok b) :
    ∃ b, t.settle block ks = .ok b ∧ (b ↔ ∃ k ∈ ks, t.holdsFor block k = .ok true) := by
  induction ks with
  | nil => exact ⟨false,by simp [settle,hp],by simp⟩
  | cons k ks ih =>
    obtain ⟨b,hb⟩ := h k (by simp)
    obtain ⟨rest,hr,hi⟩ := ih fun k hk => h k (by simp [hk])
    cases b with
    | true => exact ⟨true,by simp [settle,hb,hp],by simp [hb]⟩
    | false => exact ⟨rest,by simp [settle,hb,hp,hr],by simp [hi,hb]⟩

lemma exec_holds_of_answers (hp : t.byPath = false) (ht : t.types = .oneOf names)
    (hne : names ≠ []) (h : t.Answers block) :
    ∃ b, exec t.holds block = (.ok b,block) ∧ (b ↔ OfType names block ∧ t.Satisfied block) := by
  obtain ⟨keys,hl,ha⟩ := h
  have hi := isOfType_iff names block
  have hs : t.Satisfied block ↔ ∃ k ∈ t.asked keys, t.holdsFor block k = .ok true := by
    simp [Satisfied,hl]
  rw [exec_holds,hl]
  simp only [answer,ht,includes_oneOf hne]
  cases hn : isOfType names block with
  | false => exact ⟨false,rfl,by simp [← hi,hn]⟩
  | true =>
    have hty : OfType names block := hi.1 hn
    obtain ⟨b,hb,hb_⟩ := settle_of_answers hp (ha (by rwa [ht]))
    exact ⟨b,by simp [hb],by simp [hty,hs,hb_]⟩

end AttributeTest

namespace Condition

mutual

def leaves : Condition → List AttributeTest
  | .attr t => [t]
  | .conj cs => leavesOf cs
  | .disj cs => leavesOf cs
  | .negation c => leaves c
  | _ => []

def leavesOf : List Condition → List AttributeTest
  | [] => []
  | c::cs => leaves c ++ leavesOf cs

end

mutual

def Plain : Condition → Prop
  | .attr t => t.byPath = false ∧ ∃ names, t.types = .oneOf names ∧ names ≠ []
  | .conj cs => cs ≠ [] ∧ PlainAll cs
  | .disj cs => cs ≠ [] ∧ PlainAll cs
  | .negation c => Plain c
  | _ => False

def PlainAll : List Condition → Prop
  | [] => True
  | c::cs => Plain c ∧ PlainAll cs

end

mutual

def Truth : Condition → Fields → Prop
  | .attr t,block => OfType t.types.members block ∧ t.Satisfied block
  | .conj cs,block => AllTrue cs block
  | .disj cs,block => SomeTrue cs block
  | .negation c,block => ¬ Truth c block
  | _,_ => False

def AllTrue : List Condition → Fields → Prop
  | [],_ => True
  | c::cs,block => Truth c block ∧ AllTrue cs block

def SomeTrue : List Condition → Fields → Prop
  | [],_ => False
  | c::cs,block => Truth c block ∨ SomeTrue cs block

end

mutual

lemma exec_holdsAt : ∀ (c : Condition) {block : Fields}, c.Plain → (∀ t ∈ c.leaves, t.Answers block) →
    ∃ b, exec c.holdsAt block = (.ok b,block) ∧ (b ↔ c.Truth block)
  | .attr t,block,hp,ha => by
    obtain ⟨hpt,names,ht,hne⟩ := hp
    obtain ⟨b,hb,hi⟩ := t.exec_holds_of_answers hpt ht hne (ha t (by simp [leaves]))
    exact ⟨b,hb,by simp [Truth,ht,members,hi]⟩
  | .conj cs,block,hp,ha => exec_holdAt true cs hp.2 ha
  | .disj cs,block,hp,ha => exec_holdAt false cs hp.2 ha
  | .negation c,block,hp,ha => by
    obtain ⟨b,hb,hi⟩ := exec_holdsAt c hp ha
    refine ⟨!b,?_,?_⟩
    · simp only [holdsAt,exec_bind,hb,exec_pure]
    · simp [Truth,← hi]

lemma exec_holdAt (all : Bool) : ∀ (cs : List Condition) {block : Fields}, PlainAll cs →
    (∀ t ∈ leavesOf cs, t.Answers block) →
    ∃ b, exec (holdAt all cs) block = (.ok b,block) ∧ (b ↔ if all then AllTrue cs block else SomeTrue cs block)
  | [],block,_,_ => ⟨all,rfl,by cases all <;> simp [AllTrue,SomeTrue]⟩
  | c::cs,block,hp,ha => by
    obtain ⟨b,hb,hi⟩ := exec_holdsAt c hp.1 fun t ht => ha t (by simp [leavesOf,ht])
    obtain ⟨rest,hr,hrs⟩ := exec_holdAt all cs hp.2 fun t ht => ha t (by simp [leavesOf,ht])
    refine ⟨if b = all then rest else b,?_,?_⟩
    · simp only [holdAt,exec_bind,hb]
      split <;> simp [hr]
    · cases all <;> cases b <;> simp_all [AllTrue,SomeTrue]

end

lemma truth_iff (hp : c.Plain) (ha : ∀ t ∈ c.leaves, t.Answers block) :
    c.Truth block ↔ (exec c.holdsAt block).1.toOption = some true := by
  obtain ⟨b,hb,hi⟩ := c.exec_holdsAt hp ha
  simp [hb,Except.toOption,hi]

def Named (c : Condition) (block : Fields) : Prop := ∃ t ∈ c.leaves, OfType t.types.members block

mutual

lemma typeNames_eq : ∀ {c : Condition}, c.Plain → c.typeNames = c.leaves.flatMap (·.types.members)
  | .attr t,_ => by simp [typeNames,leaves]
  | .conj _,h | .disj _,h => typeNamesOf_eq h.2
  | .negation c,h => typeNames_eq (c := c) h

lemma typeNamesOf_eq : ∀ {cs : List Condition}, PlainAll cs → typeNamesOf cs = (leavesOf cs).flatMap (·.types.members)
  | [],_ => rfl
  | c::cs,h => by
    rw [typeNamesOf,leavesOf,flatMap_append,typeNames_eq h.1,typeNamesOf_eq h.2]

end

lemma named_iff (h : c.Plain) (block : Fields) : c.Named block ↔ OfType c.typeNames block := by
  rw [typeNames_eq h]
  simp only [Named,OfType,mem_flatMap]
  grind

mutual

lemma typeNames_ne_nil : ∀ {c : Condition}, c.Plain → c.typeNames ≠ []
  | .attr t,⟨_,names,ht,hne⟩ => by simpa [typeNames,ht,members] using hne
  | .conj _,h | .disj _,h => typeNamesOf_ne_nil h.1 h.2
  | .negation c,h => typeNames_ne_nil (c := c) h

lemma typeNamesOf_ne_nil : ∀ {cs : List Condition}, cs ≠ [] → PlainAll cs → typeNamesOf cs ≠ []
  | [],hne,_ => absurd rfl hne
  | c::cs,_,h => by simp [typeNamesOf,typeNames_ne_nil h.1]

end

mutual

lemma isConnected_eq_false : ∀ {c : Condition}, c.Plain → c.isConnected = false
  | .attr _,_ | .negation _,_ => rfl
  | .conj _,h | .disj _,h => anyConnected_eq_false h.2

lemma anyConnected_eq_false : ∀ {cs : List Condition}, PlainAll cs → anyConnected cs = false
  | [],_ => rfl
  | c::cs,h => by rw [anyConnected,isConnected_eq_false h.1,anyConnected_eq_false h.2,Bool.or_self]

end

end Condition

namespace Net

variable {g : Net}

def Distinct (g : Net) : Prop :=
  ∀ i < g.vertices.size, ∀ j < g.vertices.size, Value.eq (.dict (g.data i)) (.dict (g.data j)) → i = j

lemma isAmong_iff (h : g.Distinct) (i : Nat) (vs : List Nat) : g.isAmong i vs ↔ i ∈ vs := by
  have ha : ∀ j, g.alike i j → i = j := by
    intro j hj
    simp only [alike,Bool.or_eq_true,beq_iff_eq,Bool.and_eq_true,decide_eq_true_eq] at hj
    rcases hj with rfl | ⟨⟨hi,hj⟩,heq⟩
    · rfl
    · exact h i hi j hj heq
  simp only [isAmong,Bool.or_eq_true,contains_iff_mem,any_eq_true]
  refine ⟨fun hm => ?_,.inl⟩
  rcases hm with hm | ⟨j,hj,heq⟩
  · exact hm
  · exact ha j heq ▸ hj

lemma blockType?_data (g : Net) (i : Nat) : blockType? (g.data i) = blockType? (g.attributes i) := by
  rw [blockType?,blockType?,lookup_data (by decide)]

lemma ofTypes_oneOf (hne : names ≠ []) (g : Net) (nodes : List Nat) :
    g.ofTypes (.oneOf names) nodes = .ok (nodes.filter fun i => isOfType names (g.attributes i)) := by
  simp only [ofTypes,includes_oneOf hne,filterM_ok]

end Net

namespace Outcome

lemma mem_of_passed : j ∈ (Outcome.of i v).passed ↔ v = some true ∧ j = i := by
  rcases v with _ | _ | _ <;> simp [Outcome.of]

lemma mem_of_failed : j ∈ (Outcome.of i v).failed ↔ v = some false ∧ j = i := by
  rcases v with _ | _ | _ <;> simp [Outcome.of]

end Outcome

namespace Run

lemma exec_passing (hp : c.Plain) (ha : ∀ i ∈ nodes, ∀ t ∈ c.leaves, t.Answers (g.data i)) :
    ∃ passed, exec (passing c nodes) g = (.ok passed,g) ∧ passed.Sublist nodes ∧
      ∀ i, i ∈ passed ↔ i ∈ nodes ∧ c.Truth (g.data i) := by
  induction nodes with
  | nil => exact ⟨[],rfl,.slnil,by simp⟩
  | cons i nodes ih =>
    obtain ⟨rest,hr,hs,hif⟩ := ih fun j hj => ha j (by simp [hj])
    obtain ⟨b,hb,ht⟩ := c.exec_holdsAt hp (ha i (by simp))
    have he : exec (passing c (i::nodes)) g = (.ok (if b then i :: rest else rest),g) := by
      simp only [passing,exec_bind,exec_atVertex_of_same hb,hr,exec_pure]
    refine ⟨_,he,?_,?_⟩
    · cases b with
      | true => exact hs.cons_cons i
      | false => exact hs.cons i
    · intro j
      cases b with
      | true =>
        have hi : c.Truth (g.data i) := ht.1 rfl
        simp only [if_true,mem_cons,hif]
        grind
      | false =>
        have hi : ¬ c.Truth (g.data i) := by simp [← ht]
        simp only [Bool.false_eq_true,if_false,mem_cons,hif]
        grind

/-- A run over some nodes gives each node that the condition names the verdict that the condition says. -/
structure Judges (c : Condition) (g : Net) (nodes : List Nat) (o : Outcome) : Prop where
  passed_sublist : o.passed.Sublist nodes
  failed_sublist : o.failed.Sublist nodes
  mem_passed : ∀ i, i ∈ o.passed ↔ i ∈ nodes ∧ c.Named (g.data i) ∧ c.Truth (g.data i)
  mem_failed : ∀ i, i ∈ o.failed ↔ i ∈ nodes ∧ c.Named (g.data i) ∧ ¬ c.Truth (g.data i)

lemma exec_combined (hp : c.Plain) (hd : g.Distinct) (ha : ∀ i ∈ nodes, ∀ t ∈ c.leaves, t.Answers (g.data i)) :
    ∃ o, exec (combined c nodes) g = (.ok o,g) ∧ Judges c g nodes o := by
  have hm := g.ofTypes_oneOf (Condition.typeNames_ne_nil hp) nodes
  generalize hs : nodes.filter (fun i => isOfType c.typeNames (g.attributes i)) = members at hm
  have hmm : ∀ i, i ∈ members ↔ i ∈ nodes ∧ c.Named (g.data i) := by
    intro i
    rw [← hs,mem_filter,isOfType_iff,Condition.named_iff hp]
    simp only [OfType,Net.blockType?_data]
  have hsb : members.Sublist nodes := hs ▸ filter_sublist
  have ha : ∀ i ∈ members, ∀ t ∈ c.leaves, t.Answers (g.data i) := fun i hi => ha i (hsb.subset hi)
  obtain ⟨passed,hps,hpd,hp_⟩ := exec_passing hp ha
  refine ⟨⟨passed,members.filter fun i => !g.isAmong i passed⟩,?_,?_⟩
  · simp only [combined,exec_bind,exec_get,exec_lift,hm,hps,exec_pure]
  · refine ⟨hpd.trans hsb,filter_sublist.trans hsb,?_,?_⟩
    · intro i
      simp only [hp_,hmm,and_assoc]
    · intro i
      have ham := Net.isAmong_iff hd i passed
      rw [hp_] at ham
      grind

lemma concerns_oneOf (names : List String) (g : Net) (i : Nat) :
    g.concerns (.oneOf names) i = .ok ((names.isEmpty || isOfType names (g.attributes i)) && g.isJudged i) := by
  by_cases he : names.isEmpty
  · simp only [Net.concerns,TypeNames.isEmpty,he,if_true,Bool.true_or,Bool.true_and]
    rfl
  · simp only [Net.concerns,TypeNames.isEmpty,he,if_false,Bool.false_or,Net.typeOf,Net.get?,isOfType,
      blockType?,has,Bool.false_eq_true]
    cases (g.attributes i).lookup "resource_type" with
    | none => rfl
    | some type => cases ht : type.text? <;> simp [ht]

lemma exec_verdict_of_concerns (hc : g.concerns t.types i = .ok true)
    (hr : exec (atVertex i t.holds) g = (.ok b,k)) : exec (verdict t i) g = (.ok (some b),k) := by
  simp only [verdict,exec_bind,exec_get,exec_lift,hc,if_true,exec_tryCatch,hr,exec_pure]

lemma exec_verdict_of_not_concerns (hc : g.concerns t.types i = .ok false) : exec (verdict t i) g = (.ok none,g) := by
  simp only [verdict,exec_bind,exec_get,exec_lift,hc,Bool.false_eq_true,if_false,exec_pure]

lemma exec_verdict (hp : (attr t).Plain)
    (hj : (g.get? i "resource_type").isSome → g.isJudged i) (ha : t.Answers (g.data i)) :
    ∃ v, exec (verdict t i) g = (.ok v,g) ∧ (v = some true ↔ (attr t).Named (g.data i) ∧ (attr t).Truth (g.data i)) ∧
      (v = some false ↔ (attr t).Named (g.data i) ∧ ¬ (attr t).Truth (g.data i)) := by
  obtain ⟨hpt,names,ht,hne⟩ := hp
  obtain ⟨b,hb,hi⟩ := t.exec_holds_of_answers hpt ht hne ha
  have hn : (attr t).Named (g.data i) ↔ isOfType names (g.data i) := by
    simp [Named,leaves,ht,members,isOfType_iff]
  have htr : (attr t).Truth (g.data i) ↔ b := by
    simp [Truth,ht,members,hi]
  have hc : g.concerns t.types i = .ok (isOfType names (g.data i)) := by
    have he : names.isEmpty = false := by simpa using hne
    rw [ht,concerns_oneOf,he,Bool.false_or,isOfType,isOfType,Net.blockType?_data]
    -- A vertex of a named type has a type, so it is judged.
    cases hty : g.get? i "resource_type" with
    | none =>
      have hnn : blockType? (g.attributes i) = none := by
        rw [blockType?,show (g.attributes i).lookup _ = none from hty]
        rfl
      simp [hnn]
    | some type => simp [hj (by simp [hty])]
  rw [hn,htr]
  cases hof : isOfType names (g.data i) with
  | true =>
    rw [hof] at hc
    exact ⟨some b,exec_verdict_of_concerns hc (exec_atVertex_of_same hb),by simp,by simp⟩
  | false =>
    rw [hof] at hc
    exact ⟨none,exec_verdict_of_not_concerns hc,by simp,by simp⟩

lemma Judges.add (h : Judges c g nodes o)
    (ht : v = some true ↔ c.Named (g.data i) ∧ c.Truth (g.data i))
    (hf : v = some false ↔ c.Named (g.data i) ∧ ¬ c.Truth (g.data i)) : Judges c g (i::nodes) ((Outcome.of i v).append o) := by
  refine ⟨?_,?_,fun j => ?_,fun j => ?_⟩
  · rcases v with _ | _ | _ <;> first | exact h.passed_sublist.cons i | exact h.passed_sublist.cons_cons i
  · rcases v with _ | _ | _ <;> first | exact h.failed_sublist.cons i | exact h.failed_sublist.cons_cons i
  · rw [Outcome.append,mem_append,Outcome.mem_of_passed,h.mem_passed,ht,mem_cons]
    grind
  · rw [Outcome.append,mem_append,Outcome.mem_of_failed,h.mem_failed,hf,mem_cons]
    grind

lemma exec_single_cons (hv : exec (verdict t i) g = (.ok v,g₁))
    (ho : exec (single t nodes) g₁ = (.ok o,g₂)) :
    exec (single t (i::nodes)) g = (.ok ((Outcome.of i v).append o),g₂) := by
  rw [single] at ho ⊢
  simp only [each,exec_bind,hv,exec_pure,ho]

lemma exec_single (hp : (attr t).Plain) (hjd : ∀ i ∈ nodes, (g.get? i "resource_type").isSome → g.isJudged i)
    (ha : ∀ i ∈ nodes, t.Answers (g.data i)) :
    ∃ o, exec (single t nodes) g = (.ok o,g) ∧ Judges (.attr t) g nodes o := by
  induction nodes with
  | nil => exact ⟨{},rfl,.slnil,.slnil,by simp,by simp⟩
  | cons i nodes ih =>
    obtain ⟨v,hv,ht,hf⟩ := exec_verdict hp (hjd i (by simp)) (ha i (by simp))
    obtain ⟨o,ho,hjg⟩ := ih (fun j hj => hjd j (by simp [hj])) fun j hj => ha j (by simp [hj])
    exact ⟨_,exec_single_cons hv ho,hjg.add ht hf⟩

lemma exec_policy (hp : c.Plain) (hd : g.Distinct)
    (hj : ∀ i ∈ g.nodes, (g.get? i "resource_type").isSome → g.isJudged i)
    (ha : ∀ i ∈ g.nodes, ∀ t ∈ c.leaves, t.Answers (g.data i)) :
    ∃ o, exec (policy c) g = (.ok o,g) ∧ Judges c g g.nodes o := by
  have hc := exec_combined hp hd ha
  have hcn := isConnected_eq_false hp
  cases c with
  | attr t =>
    have hs := exec_single hp hj fun i hi => ha i hi t (by simp [leaves])
    simpa only [policy,isConnected,Bool.false_eq_true,if_false,alone,exec_bind,exec_get] using hs
  | connection | filter => exact hp.elim
  | conj _ | disj _ | negation _ => simpa only [policy,alone,exec_bind,exec_get,hcn,Bool.false_eq_true,if_false] using hc

end Run

end InfraAudit.Policy
