import InfraAudit.Policy.Definition
import InfraAudit.Proofs.Policy.Truth

namespace InfraAudit.Policy

open List Value Text.Pattern

def holdsNothing : Value → Bool
  | .null => true
  | .bool _ => true
  | .int _ => true
  | .float _ => true
  | .thing _ => true
  | _ => false

def setMembers (v : Value) : List Value :=
  match v with
  | .list xs => xs
  | .set xs => xs
  | v => if v.isDict then v.entries.map Prod.fst else [v]

/-- The kind of value that a policy has to give. -/
def Operator.Expects : Operator → Value → Prop
  | .contains,b => b.isText
  | .notContains,b => b.isText
  | .startsWith,b => b.isText
  | .notStartsWith,b => b.isText
  | .endsWith,b => b.isText
  | .notEndsWith,b => b.isText
  | .within,b => b.isList
  | .subset,b => b.isList ∧ b.items.all hashable
  | .notSubset,b => b.isList ∧ b.items.all hashable
  | .matching,b => ∃ p, read b.display = .ok p
  | .notMatching,b => ∃ p, read b.display = .ok p
  | _,_ => True

/-- The attribute has a value that the operator cannot be asked of. -/
def Operator.refuses (op : Operator) (block : Fields) (key : Option String) : Bool :=
  match op with
  | .contains => holdsNothing (spelledValue (holds.soughtIn block key))
  | .notContains => holdsNothing (spelledValue (holds.soughtIn block key))
  | .subset => !(setMembers (attributeOf block key)).all hashable
  | .notSubset => !(setMembers (attributeOf block key)).all hashable
  | _ => false

lemma isOk_bind {α β : Type} {r : Result α} {f : α → Result β} (h : ∀ a, (f a).isOk) : (r >>= f).isOk = r.isOk := by
  cases r with
  | error e => rfl
  | ok a => exact h a

section

variable {block : Fields} {b : Value}

lemma isOk_negated (r : Result Bool) : (negated r).isOk = r.isOk := by cases r <;> rfl

section

variable (h : b.isText = true)

include h

lemma hashable_of_isText : b.hashable := by
  cases b with
  | str => rfl
  | element => rfl
  | _ => simp [isText,text?] at h

lemma isOk_holds_iff (v : Value) : (v.holds b).isOk = !holdsNothing v := by
  have hh := hashable_of_isText h
  obtain ⟨s,hs⟩ := Option.isSome_iff_exists.1 h
  cases v <;> simp [holds,holdsNothing,hh,hs]

lemma isOk_anyHolds (vs : List Value) : (anyHolds b vs).isOk = true := by
  induction vs with
  | nil => rfl
  | cons v vs ih =>
    rw [anyHolds]
    split
    · next hv =>
      have hn : holdsNothing v = false := by cases v <;> simp [isCollection,holdsNothing] at hv ⊢
      rw [isOk_bind,isOk_holds_iff h,hn]
      · rfl
      · intro found
        cases found
        · exact ih
        · rfl
    · exact ih

lemma isOk_containsValue (v : Value) : (containsValue v b).isOk = !holdsNothing (spelledValue v) := by
  simp only [containsValue]
  split
  · rw [isOk_bind,isOk_holds_iff h]
    intro found
    cases found
    · exact isOk_anyHolds h _
    · rfl
  · exact isOk_holds_iff h _

end

lemma membersOf_eq (a : Value) :
    membersOf a = if (setMembers a).all hashable then .ok (setMembers a) else .error .wrongKind := by
  cases a <;> rfl

lemma isOk_isSubset (hl : b.isList = true) (hh : b.items.all hashable = true) (a : Value) :
    (isSubset a b).isOk = (setMembers a).all hashable := by
  cases b with
  | list ys =>
    have hys : ys.all hashable = true := hh
    rw [isSubset,isOk_bind,membersOf_eq]
    · cases (setMembers a).all hashable <;> rfl
    · intro xs
      simp only [elems,ok_bind,hys]
      rfl
  | _ => simp [isList] at hl

lemma isOk_isMatching (h : ∃ p, read b.display = .ok p) (a : Value) : (isMatching a b).isOk := by
  obtain ⟨p,hp⟩ := h
  rw [isMatching,hp]
  rfl

section

variable (h : (block.lookup "source_").isSome = true)

include h

lemma exists_isUnrendered (a : Value) : ∃ u, isUnrendered block a = .ok u := by
  obtain ⟨source,hs⟩ := Option.isSome_iff_exists.1 h
  simp only [isUnrendered,hs]
  exact ⟨_,rfl⟩

lemma isOk_unlessUnrendered (a : Value) {r : Result Bool} (hr : r.isOk) : (unlessUnrendered block a r).isOk := by
  obtain ⟨u,hu⟩ := exists_isUnrendered h a
  cases u with
  | true => simp [unlessUnrendered,hu]
  | false => simpa [unlessUnrendered,hu] using hr

lemma isOk_lengthIs (a : Value) (rel : Int → Int → Bool) : (lengthIs block a b rel).isOk := by
  obtain ⟨u,hu⟩ := exists_isUnrendered h a
  rw [lengthIs]
  cases a.isNull with
  | true => rfl
  | false => cases u <;> simp [hu]

lemma isOk_isEqual (a : Value) : (isEqual block a b).isOk := by
  obtain ⟨u,hu⟩ := exists_isUnrendered h a
  rw [isEqual]
  cases b != "" with
  | false => rfl
  | true => cases u <;> simp [hu]

lemma isOk_isTrueValue (a : Value) : (isTrueValue block a).isOk := by
  rw [isTrueValue]
  split
  · rfl
  · exact isOk_unlessUnrendered h a rfl

lemma isOk_textTest (hb : b.isText) (a : Value) (p : String → String → Bool) :
    (unlessUnrendered block a (match a.text? with
      | some s => do return p s (← b.needText)
      | none => .ok false)).isOk := by
  obtain ⟨s,hs⟩ := Option.isSome_iff_exists.1 hb
  refine isOk_unlessUnrendered h a ?_
  cases a.text? with
  | none => rfl
  | some t => simp [needText,hs]

lemma isOk_within (hb : b.isList) (a : Value) : (unlessUnrendered block a (b.holds a)).isOk := by
  refine isOk_unlessUnrendered h a ?_
  cases b with
  | list xs => rfl
  | _ => simp [isList] at hb

end

lemma isOk_operator {op : Operator} (he : op.Expects b) (hs : (block.lookup "source_").isSome)
    (key : Option String) : (op.holds block key b).isOk = !op.refuses block key := by
  have ha : ∀ a (r : Bool), (if a.isNull then .ok false else unlessUnrendered block a (.ok r) : Result Bool).isOk := by
    intro a r
    split
    · rfl
    · exact isOk_unlessUnrendered hs a rfl
  cases op with
  | any | present | absent => rfl
  | equals => exact isOk_isEqual hs _
  | notEquals => exact isOk_unlessUnrendered hs _ (by rw [isOk_negated,isOk_isEqual hs])
  | matching => exact isOk_isMatching he _
  | notMatching => exact (isOk_negated _).trans (isOk_isMatching he _)
  | contains => exact isOk_containsValue he _
  | notContains => exact (isOk_negated _).trans (isOk_containsValue he _)
  | startsWith => exact isOk_textTest hs he _ Text.startsWith
  | notStartsWith => exact (isOk_negated _).trans (isOk_textTest hs he _ Text.startsWith)
  | endsWith => exact isOk_textTest hs he _ Text.endsWith
  | notEndsWith => exact (isOk_negated _).trans (isOk_textTest hs he _ Text.endsWith)
  | within => exact isOk_within hs he _
  | subset => rw [Operator.refuses,Bool.not_not]; exact isOk_isSubset he.1 he.2 _
  | notSubset =>
    rw [Operator.refuses,Bool.not_not]
    exact (isOk_negated _).trans (isOk_isSubset he.1 he.2 _)
  | greater | atLeast => exact isOk_unlessUnrendered hs _ rfl
  | less | atMost => exact ha _ _
  | isEmpty => exact isOk_unlessUnrendered hs _ rfl
  | isNotEmpty => exact (isOk_negated _).trans (isOk_unlessUnrendered hs _ rfl)
  | lengthEquals | lengthGreater | lengthAtLeast | lengthLess | lengthAtMost =>
    rw [Operator.holds]
    exact isOk_lengthIs hs _ _
  | lengthNotEquals => exact (isOk_negated _).trans (isOk_lengthIs hs _ _)
  | isTrue => exact isOk_isTrueValue hs _
  | isFalse => exact (isOk_negated _).trans (isOk_isTrueValue hs _)

end

namespace AttributeTest

variable {t : AttributeTest}

/-- The test meets an attribute that its operator refuses while the answer is still open. -/
def Stuck (t : AttributeTest) (block : Fields) (ks : List (Option String)) : Prop :=
  ∃ u k v, ks = u ++ k :: v ∧ t.operator.refuses block k ∧ ∀ j ∈ u, t.holdsFor block j = .ok t.byPath

/-- The attributes to ask about can be found, and the test does not get stuck on them. -/
def Settles (t : AttributeTest) (block : Fields) : Prop :=
  ∃ after keys, t.look block = .ok (after,keys) ∧ ¬ t.Stuck after (t.asked keys)

lemma settles_iff (h : t.query? = none) : t.Settles block ↔ t.operator.refuses block t.attribute? = false := by
  have hl : t.look block = .ok (block,[]) := by rw [look,h]
  have ha : t.asked [] = [t.attribute?] := rfl
  constructor
  · rintro ⟨after,keys,heq,hn⟩
    rw [hl] at heq
    cases heq
    rw [← Bool.not_eq_true]
    exact fun hr => hn ⟨[],_,[],ha,hr,by simp⟩
  · intro hr
    refine ⟨block,[],hl,?_⟩
    rintro ⟨u,k,v,heq,hk,-⟩
    rw [ha] at heq
    have hm : k ∈ [t.attribute?] := heq ▸ by simp
    rw [mem_singleton.1 hm,hr] at hk
    cases hk

lemma isOk_settle_iff (he : t.operator.Expects t.value) (hs : (block.lookup "source_").isSome)
    (ks : List (Option String)) : (t.settle block ks).isOk ↔ ¬ t.Stuck block ks := by
  induction ks with
  | nil => simp [settle,Stuck]
  | cons k ks ih =>
    have hok : (t.holdsFor block k).isOk = !t.operator.refuses block k := isOk_operator he hs k
    rw [settle]
    cases hk : t.holdsFor block k with
    | error e =>
      have hr : t.operator.refuses block k := by
        rw [hk] at hok
        simpa using hok
      have hst : t.Stuck block (k::ks) := ⟨[],k,ks,rfl,hr,by simp⟩
      simp [hst]
    | ok b =>
      have hr : t.operator.refuses block k = false := by
        rw [hk] at hok
        simpa using hok
      have hst : t.Stuck block (k::ks) ↔ b = t.byPath ∧ t.Stuck block ks := by
        constructor
        · rintro ⟨u,k',v,heq,hk',ho⟩
          cases u with
          | nil =>
            obtain ⟨rfl,rfl⟩ := List.cons.inj heq
            simp [hr] at hk'
          | cons j u =>
            obtain ⟨rfl,rfl⟩ := List.cons.inj heq
            have hb : t.holdsFor block k = .ok t.byPath := ho k (by simp)
            rw [hk] at hb
            exact ⟨by simpa using hb,u,k',v,rfl,hk',fun j hj => ho j (by simp [hj])⟩
        · rintro ⟨rfl,u,k',v,rfl,hk',ho⟩
          exact ⟨k :: u,k',v,rfl,hk',forall_mem_cons.2 ⟨hk,ho⟩⟩
      rw [hst]
      by_cases hb : b = t.byPath
      · simpa [hb] using ih
      · simp [hb]

lemma isOk_holds_iff {names : List String} (ht : t.types = .oneOf names)
    (hn : names = [] ∨ OfType names block) (he : t.operator.Expects t.value)
    (hs : (block.lookup "source_").isSome) : (exec t.holds block).1.isOk ↔ t.Settles block := by
  rw [exec_holds]
  cases hl : t.look block with
  | error e => simp [Settles,hl]
  | ok p =>
    obtain ⟨after,keys⟩ := p
    obtain ⟨new,rfl,hf⟩ := look_eq hl
    have hk : ∀ key v, block.lookup key = some v → (block ++ new).lookup key = some v := by
      intro key v hv
      rw [lookup_append,hv]
      rfl
    have hs : ((block ++ new).lookup "source_").isSome := by
      obtain ⟨v,hv⟩ := Option.isSome_iff_exists.1 hs
      simp [hk _ _ hv]
    have hi : t.types.includes (block ++ new) = .ok true := by
      rcases hn with rfl | ⟨name,hnm,hty⟩
      · rw [ht]
        rfl
      · obtain ⟨v,hv,htx⟩ := Option.bind_eq_some_iff.1 hty
        have ha : blockType? (block ++ new) = some name := by rw [blockType?,hk _ _ hv,Option.bind_some,htx]
        rw [ht,includes_oneOf (ne_nil_of_mem hnm),(isOfType_iff _ _).2 ⟨name,hnm,ha⟩]
    have hst : t.Settles block ↔ ¬ t.Stuck (block ++ new) (t.asked keys) := by
      constructor
      · rintro ⟨after,keys',heq,hnt⟩
        rw [hl] at heq
        cases heq
        exact hnt
      · exact fun hnt => ⟨_,_,hl,hnt⟩
    rw [hst,← isOk_settle_iff he hs]
    simp [answer,hi]

end AttributeTest

namespace Net

variable {g : Net}

def Unlinked (g : Net) : Prop := ∀ i, (g.vertices.getD i default).linked = none

lemma unlinked_ofParts (blocks : List Fields) (edges : List (Nat × Nat)) : (ofParts blocks edges).Unlinked := by
  intro i
  simp only [ofParts,Array.getD_eq_getD_getElem?,List.getElem?_toArray,List.getElem?_map]
  cases blocks[i]? <;> rfl

lemma data_of_unlinked (h : g.Unlinked) (i : Nat) : g.data i = g.attributes i := by
  rw [data,linkDepth,dataWithin,h i]

lemma unlinked_store (h : g.Unlinked) (i : Nat) (fs : Fields) : (g.store i fs).Unlinked := by
  intro j
  simp only [store,getD_modify]
  split
  · exact h j
  · exact h j

end Net

namespace Run

variable {g : Net} {t : AttributeTest} {names : List String}

def Given (t : AttributeTest) (names : List String) (g : Net) (i : Nat) : Prop :=
  ((names.isEmpty || isOfType names (g.attributes i)) && g.isJudged i) ∧ (exec t.holds (g.attributes i)).1.isOk

lemma given_of_attributes {g g' : Net} (h : g'.attributes i = g.attributes i) :
    Given t names g' i ↔ Given t names g i := by
  have hj : g'.isJudged i = g.isJudged i := by simp only [Net.isJudged,Net.get?,h]
  rw [Given,Given,h,hj]

lemma verdict_of_unlinked (ht : t.types = .oneOf names) (h : g.Unlinked) (i : Nat) :
    ∃ v g', exec (verdict t i) g = (.ok v,g') ∧ (v.isSome ↔ Given t names g i) ∧ g'.Unlinked ∧
      ∀ j, i ≠ j → g'.attributes j = g.attributes j := by
  have hc := concerns_oneOf names g i
  rw [← ht] at hc
  cases hf : (names.isEmpty || isOfType names (g.attributes i)) && g.isJudged i with
  | false =>
    refine ⟨none,g,?_,by simp [Given,hf],h,fun _ _ => rfl⟩
    simp only [verdict,exec_bind,exec_get,exec_lift,hc,hf,Bool.false_eq_true,if_false,exec_pure]
  | true =>
    have ha := exec_atVertex i t.holds g
    rw [Net.data_of_unlinked h] at ha
    have hv : exec (verdict t i) g =
        (.ok (exec t.holds (g.attributes i)).1.toOption,(exec (atVertex i t.holds) g).2) := by
      simp only [verdict,exec_bind,exec_get,exec_lift,hc,hf,if_true,exec_tryCatch,ha]
      cases (exec t.holds (g.attributes i)).1 <;> rfl
    refine ⟨_,_,hv,?_,?_,?_⟩
    · rw [Given,hf]
      cases (exec t.holds (g.attributes i)).1 <;> simp [Except.toOption]
    · rw [ha]
      exact Net.unlinked_store h _ _
    · intro j hj
      rw [ha,Net.attributes_store]
      exact if_neg fun hij => hj hij.1

lemma single_of_unlinked (ht : t.types = .oneOf names) (h : g.Unlinked) {nodes : List Nat} (hn : nodes.Nodup) :
    ∃ o g', exec (single t nodes) g = (.ok o,g') ∧ ∀ i, (i ∈ o.passed ∨ i ∈ o.failed) ↔ i ∈ nodes ∧ Given t names g i := by
  induction nodes generalizing g with
  | nil => exact ⟨{},g,rfl,by simp⟩
  | cons i nodes ih =>
    obtain ⟨hi,hn⟩ := nodup_cons.1 hn
    obtain ⟨v,g₁,hv,hg,hu,hot⟩ := verdict_of_unlinked ht h i
    obtain ⟨o,g₂,ho,hif⟩ := ih hu hn
    refine ⟨_,g₂,exec_single_cons hv ho,fun j => ?_⟩
    have ha : (j ∈ ((Outcome.of i v).append o).passed ∨ j ∈ ((Outcome.of i v).append o).failed) ↔
        (j = i ∧ v.isSome) ∨ (j ∈ o.passed ∨ j ∈ o.failed) := by
      rcases v with _ | _ | _ <;> grind [Outcome.of,Outcome.append]
    rw [ha,hif,hg,mem_cons]
    by_cases hj : j = i
    · subst hj
      simp [hi]
    · rw [given_of_attributes (hot j fun h => hj h.symm)]
      simp [hj]

end Run

/-- A resource or data block of the types of a test gets a verdict just where the test settles: where the
attributes to ask about can be found and none that is reached is refused by the operator. -/
theorem verdict_iff_settles {p : Rule} {t : AttributeTest} (hp : p.condition = .attr t) {names : List String}
    (htypes : t.types = .oneOf names) (hexpects : t.operator.Expects t.value) {g : Net} (hunlinked : g.Unlinked) {i : Nat}
    (hi : i ∈ g.nodes) (hjudged : g.isJudged i = true) (hnamed : names = [] ∨ OfType names (g.attributes i))
    (hsource : (g.get? i "source_").isSome = true) :
    ∃ o g', p.apply g = (.ok o,g') ∧ ((i ∈ o.passed ∨ i ∈ o.failed) ↔ t.Settles (g.attributes i)) := by
  have hnodup : g.nodes.Nodup := List.nodup_range
  obtain ⟨o,g',ho,hiff⟩ := Run.single_of_unlinked htypes hunlinked hnodup
  have happly : p.apply g = (.ok o,g') := by
    have hpolicy : exec (Run.policy (.attr t)) g = (.ok o,g') := ho
    rw [← hp] at hpolicy
    exact hpolicy
  have hfor : ((names.isEmpty || isOfType names (g.attributes i)) && g.isJudged i) = true := by
    rcases hnamed with rfl | htype
    · simp [hjudged]
    · simp [hjudged,(isOfType_iff names _).2 htype]
  refine ⟨o,g',happly,?_⟩
  rw [hiff,Run.Given,AttributeTest.isOk_holds_iff htypes hnamed hexpects hsource]
  simp [hi,hfor]

def portTest : AttributeTest := ⟨.oneOf ["host"],.contains,some "port","80",false⟩

def portPolicy : Rule :=
  { id := "P", name := "", category := "", frameworks := .list [], kind := some .single,
    operator := "contains", types := .oneOf ["host"], condition := .attr portTest,
    draft := .leaf (some .single) "contains" "port" "80" (.oneOf ["host"]) (.oneOf []) }

def twoHosts : Net := .ofParts
  [[("block_type_","resource"),("resource_type","host"),("source_","Terraform"),("port","8080")],
    [("block_type_","resource"),("resource_type","host"),("source_","Terraform"),("port",.list ["80"])]] []

/-- The text "8080" is read as a number, which holds nothing. -/
theorem verdict_iff_settles_twoHosts :
    ∃ o g', portPolicy.apply twoHosts = (.ok o,g') ∧ (0 ∉ o.passed ∧ 0 ∉ o.failed) ∧ (1 ∈ o.passed ∨ 1 ∈ o.failed) := by
  have hunlinked : twoHosts.Unlinked := Net.unlinked_ofParts _ _
  have hexpects : portTest.operator.Expects portTest.value := rfl
  have hquery : portTest.query? = none := by decide +kernel
  have hnamed : ∀ i ∈ twoHosts.nodes, isOfType ["host"] (twoHosts.attributes i) = true := by decide +kernel
  have hverdict : ∀ i ∈ twoHosts.nodes, ∃ o g', portPolicy.apply twoHosts = (.ok o,g') ∧
      ((i ∈ o.passed ∨ i ∈ o.failed) ↔ portTest.operator.refuses (twoHosts.attributes i) portTest.attribute? = false) := by
    have hjudged : ∀ i ∈ twoHosts.nodes, twoHosts.isJudged i = true := by decide +kernel
    have hsource : ∀ i ∈ twoHosts.nodes, (twoHosts.get? i "source_").isSome = true := by decide +kernel
    intro i hi
    rw [← AttributeTest.settles_iff hquery]
    exact verdict_iff_settles rfl rfl hexpects hunlinked hi (hjudged i hi) (.inr ((isOfType_iff _ _).1 (hnamed i hi)))
      (hsource i hi)
  obtain ⟨o,g',ho,hfirst⟩ := hverdict 0 (by decide +kernel)
  obtain ⟨o',g'',ho',hsecond⟩ := hverdict 1 (by decide +kernel)
  obtain ⟨rfl,rfl⟩ : o = o' ∧ g' = g'' := by simpa [ho] using ho'
  refine ⟨o,g',ho,?_,hsecond.2 (by decide +kernel)⟩
  rw [← not_or,hfirst]
  decide +kernel

end InfraAudit.Policy
