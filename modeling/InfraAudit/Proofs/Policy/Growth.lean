import InfraAudit.Policy.Definition
import InfraAudit.Proofs.Policy.TwoRuns

namespace InfraAudit.Policy

open List

def outside (names : List String) (block : Fields) : Fields := block.filter fun f => !names.contains f.1

lemma outside_append (names : List String) (b b' : Fields) :
    outside names (b ++ b') = outside names b ++ outside names b' := filter_append ..

lemma lookup_outside (hk : k ∉ names) (block : Fields) : (outside names block).lookup k = block.lookup k := by
  induction block with
  | nil => rfl
  | cons f block ih =>
    obtain ⟨k',v⟩ := f
    by_cases hky : k = k'
    · subst hky
      simp [outside,hk]
    · have hne : (k == k') = false := by simpa using hky
      by_cases hin : k' ∈ names
      · simpa [outside,filter_cons,hin,lookup_cons,hne] using ih
      · simpa [outside,filter_cons,hin,lookup_cons,hne] using ih

lemma lookup_outside_of_mem (hk : k ∈ names) (block : Fields) : (outside names block).lookup k = none := by
  rw [lookup_eq_none_iff]
  intro f hf
  have hn := (mem_filter.1 hf).2
  rw [bne_iff_ne]
  rintro rfl
  simp [hk] at hn

lemma outside_insert (hk : k ∈ names) (v : Value) (block : Fields) :
    outside names (Fields.insert k v block) = outside names block := by
  induction block with
  | nil => simp [outside,Fields.insert,hk]
  | cons f block ih =>
    obtain ⟨k',v'⟩ := f
    by_cases hky : k' = k
    · subst hky
      simp [outside,Fields.insert,hk]
    · simp only [Fields.insert,beq_iff_eq,hky,if_false,outside,filter_cons]
      rw [← outside,ih,outside]

lemma outside_eq_nil (h : ∀ f ∈ block, f.1 ∈ names) : outside names block = [] := by
  rw [outside,filter_eq_nil_iff]
  intro f hf
  simpa using h f hf

namespace Net

lemma outside_data (h : linkKey ∈ names) (g : Net) (i : Nat) :
    outside names (g.data i) = outside names (g.attributes i) := by
  rcases g.data_cases i with hd | ⟨v,hd⟩
  · rw [hd]
  · rw [hd,outside_insert h]

lemma lookup_attributes_eq_none {g : Net} (h : (g.data i).lookup k = none) : (g.attributes i).lookup k = none := by
  rcases g.data_cases i with hd | ⟨v,hd⟩
  · rwa [hd] at h
  · by_cases hk : k = linkKey
    · subst hk
      simp [hd,Fields.lookup_insert] at h
    · rwa [← lookup_data hk]

lemma attributes_link (g : Net) (v u j : Nat) : (g.link v u).attributes j = g.attributes j := by
  simp only [attributes,link,getD_modify]
  split <;> rfl

lemma attributes_of_size_le {g : Net} (h : g.vertices.size ≤ i) : g.attributes i = [] := by
  simp only [attributes,Array.getD_eq_getD_getElem?,Array.getElem?_eq_none h]
  rfl

/-- A net to which attributes were added, under names that their blocks did not have, and links. -/
structure Extends (g h : Net) : Prop where
  size : h.vertices.size = g.vertices.size
  edges : h.edges = g.edges
  attributes : ∀ i, ∃ new, h.attributes i = g.attributes i ++ new ∧ Additions (g.attributes i) new

namespace Extends

variable {g h : Net}

lemma refl (g : Net) : g.Extends g := ⟨rfl,rfl,fun _ => ⟨[],by simp,.nil _⟩⟩

lemma link (he : g.Extends h) (v u : Nat) : g.Extends (h.link v u) := by
  refine ⟨by simpa [Net.link] using he.size,he.edges,fun i => ?_⟩
  rw [attributes_link]
  exact he.attributes i

lemma store (he : g.Extends h) (hn : Additions (h.data i) new) : g.Extends (h.store i new) := by
  refine ⟨by simpa [Net.store] using he.size,he.edges,fun j => ?_⟩
  obtain ⟨old,hold,hfr⟩ := he.attributes j
  rw [attributes_store]
  split
  · next hij =>
    obtain ⟨rfl,-⟩ := hij
    refine ⟨old ++ new,by rw [hold,append_assoc],hfr.append fun f hf => ?_⟩
    rw [← hold]
    exact ⟨lookup_attributes_eq_none (hn f hf).1,(hn f hf).2⟩
  · exact ⟨old,hold,hfr⟩

lemma lookup (he : g.Extends h) (hv : (g.attributes i).lookup k = some v) : (h.attributes i).lookup k = some v := by
  obtain ⟨new,hn,-⟩ := he.attributes i
  rw [hn,lookup_append,hv,Option.some_or]

end Extends

end Net

lemma AttributeTest.inStep_eq (t : AttributeTest) : InStep Eq t.holds := by
  rintro b _ rfl
  refine ⟨rfl,?_⟩
  rw [t.exec_holds]
  cases hl : t.look b with
  | error e => exact ⟨[],[],by simp,by simp,.nil b,rfl⟩
  | ok p =>
    obtain ⟨new,hn,hf⟩ := AttributeTest.look_eq hl
    exact ⟨new,new,hn,hn,hf,rfl⟩

lemma pairing_extends (g : Net) : Pairing (fun h h' => h = h' ∧ g.Extends h) fun _ => Eq where
  size := fun h => by rw [h.1]
  edges := fun h => by rw [h.1]
  get? := fun h => by simp [h.1]
  isAmong := fun h => by simp [h.1]
  data := fun h => by simp [h.1]
  store := by
    rintro h _ ⟨rfl,he⟩ i new new' hn heq
    obtain rfl := append_cancel_left heq
    exact ⟨rfl,he.store hn⟩

lemma Condition.fitsAlone_extends (g : Net) (d : Condition) :
    d.FitsAlone (fun h h' => h = h' ∧ g.Extends h) fun _ => Eq := by
  cases d with
  | attr t => exact fun _ => t.inStep_eq
  | connection _ _ _ =>
    rintro h _ ⟨rfl,he⟩ v u
    exact ⟨rfl,he.link v u⟩
  | filter a v _ =>
    rintro i b _ rfl
    rfl
  | conj _ | disj _ | negation _ => trivial

lemma Rule.extends_apply (p : Rule) (g : Net) : g.Extends (p.apply g).2 :=
  ((pairing_extends g).stable_policy (fun d _ => d.fitsAlone_extends g) g g ⟨rfl,.refl g⟩).2.2

/-- Neither a path query nor a condition on connections. -/
def Condition.StoresNothing : Condition → Prop
  | .attr t => t.byPath = false
  | .connection _ _ _ => False
  | _ => True

lemma AttributeTest.exec_holds_of_byPath {t : AttributeTest} (h : t.byPath = false) (b : Fields) :
    (exec t.holds b).2 = b := by
  rw [t.exec_holds]
  cases hl : t.look b with
  | error e => rfl
  | ok p =>
    simp only [look,h,Bool.false_eq_true,if_false] at hl
    split at hl
    · cases hl
      rfl
    · next name _ =>
      cases hr : wildcardPatterns name with
      | error e => simp [hr] at hl
      | ok patterns =>
        simp only [hr,ok_bind,pure_eq_ok] at hl
        cases hl
        rfl

lemma pairing_same (g : Net) : Pairing (fun h h' => h = g ∧ h' = g) fun i b b' => b = g.data i ∧ b' = g.data i where
  size := fun h => by rw [h.1,h.2]
  edges := fun h => by rw [h.1,h.2]
  get? := fun h => by simp [h.1,h.2]
  isAmong := fun h => by simp [h.1,h.2]
  data := fun h => by simp [h.1,h.2]
  store := by
    rintro _ _ ⟨rfl,rfl⟩ i new new' - ⟨hn,hn'⟩
    obtain rfl : new = [] := by simpa using hn
    obtain rfl : new' = [] := by simpa using hn'
    exact ⟨Net.store_nil _ _,Net.store_nil _ _⟩

lemma Rule.apply_eq_self {p : Rule} (h : ∀ c ∈ p.condition.simples, c.StoresNothing) (g : Net) :
    (p.apply g).2 = g := by
  have hf : p.condition.Fits (fun h h' => h = g ∧ h' = g) fun i b b' => b = g.data i ∧ b' = g.data i := by
    intro d hd
    have hs := h d hd
    cases d with
    | attr t =>
      rintro i _ _ ⟨rfl,rfl⟩
      have hsm := AttributeTest.exec_holds_of_byPath hs (g.data i)
      exact ⟨rfl,[],[],by simpa using hsm,by simpa using hsm,.nil _,hsm,hsm⟩
    | connection _ _ _ => exact hs.elim
    | filter a v _ =>
      rintro i _ _ ⟨rfl,rfl⟩
      rfl
    | conj _ | disj _ | negation _ => trivial
  exact ((pairing_same g).stable_policy hf g g ⟨rfl,rfl⟩).2.1

end InfraAudit.Policy
