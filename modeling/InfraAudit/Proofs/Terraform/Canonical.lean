import InfraAudit.Proofs.Success
import InfraAudit.Terraform.Loading

/-!
Definitions in canonical form: neither the words for truth values nor the order of keys and of the texts in a list show in it, and
nothing else is changed.
-/

namespace InfraAudit.Terraform

open List Text
open Relation (ReflTransGen)

def isScalar : Value → Bool
  | .null | .bool _ | .int _ | .float _ | .str _ => true
  | _ => false

/-- Mappings without the key `alias`, whose value is kept as it is, and lists, down to scalars. -/
inductive Tree : Value → Prop where
  | scalar {v : Value} (h : isScalar v) : Tree v
  | list {xs : List Value} (parts : ∀ x ∈ xs, Tree x) : Tree (.list xs)
  | dict {fs : Fields} (nodup : (Fields.keys fs).Nodup) (named : "alias" ∉ Fields.keys fs)
      (parts : ∀ f ∈ fs, Tree f.2) : Tree (.dict fs)

/-- No text, once words for truth values are read. -/
def holdsPlace (v : Value) : Bool := !(truthWord v).isText

/-- A word for a truth value is read, or the keys of one mapping or the items of one list change their order, but for items that hold
their place. -/
inductive Tidied : Value → Value → Prop where
  | word (v : Value) : Tidied v (truthWord v)
  | fields {fs gs : Fields} (h : fs.Perm gs) : Tidied (.dict fs) (.dict gs)
  | items {xs ys : List Value} (h : xs.Perm ys) (hp : xs.filter holdsPlace = ys.filter holdsPlace) :
      Tidied (.list xs) (.list ys)
  | inField {v w : Value} (k : String) (fs gs : Fields) (h : Tidied v w) :
      Tidied (.dict (fs ++ (k,v) :: gs)) (.dict (fs ++ (k,w) :: gs))
  | inItem {v w : Value} (xs ys : List Value) (h : Tidied v w) : Tidied (.list (xs ++ v :: ys)) (.list (xs ++ w :: ys))

variable {xs ys : List Value}

lemma canonical_list (xs : List Value) : canonical (.list xs) = .list (textsLast (xs.map canonical)) := by
  have hi : canonicalItems xs = xs.map canonical := by
    induction xs with
    | nil => rfl
    | cons x xs ih => rw [canonicalItems,ih,map_cons]
  rw [canonical,hi]

lemma canonical_dict (h : "alias" ∉ Fields.keys fs) :
    canonical (.dict fs) = .dict (sortOn Prod.fst (fs.map fun f => (f.1,canonical f.2))) := by
  have hc : canonicalFields fs = fs.map fun f => (f.1,canonical f.2) := by
    induction fs with
    | nil => rfl
    | cons f fs ih =>
      obtain ⟨hf,hr⟩ := not_or.1 (mt mem_cons.2 h)
      have hk : (f.1 == "alias") = false := by simpa using Ne.symm hf
      rw [canonicalFields,ih hr,hk]
      rfl
  rw [canonical,hc]

lemma sortOn_eq_of_perm {l r : List α} (h : l.Perm r)
    (hk : ∀ a ∈ l, ∀ b ∈ l, key a = key b → a = b) : sortOn key l = sortOn key r := by
  have hs := @pairwise_mergeSort _ (fun a b => le (key a) (key b))
    (fun a b c hab hbc => le_iff.2 (String.le_trans (le_iff.1 hab) (le_iff.1 hbc)))
    (fun a b => by simpa [le_iff] using String.le_total (key a) (key b))
  refine Perm.eq_of_pairwise (fun a b ha hb hab hba => ?_) (hs l) (hs r)
    ((mergeSort_perm l _).trans (h.trans (mergeSort_perm r _).symm))
  exact hk a (mem_mergeSort.1 ha) b (h.mem_iff.2 (mem_mergeSort.1 hb)) (String.le_antisymm (le_iff.1 hab) (le_iff.1 hba))

lemma canonical_scalar (h : isScalar v) : canonical v = truthWord v := by cases v <;> first | rfl | cases h

lemma scalar_truthWord (h : isScalar v) : isScalar (truthWord v) := by
  unfold truthWord
  split <;> first | rfl | exact h

lemma truthWord_truthWord (v : Value) : truthWord (truthWord v) = truthWord v := by
  unfold truthWord
  split <;> split <;> simp_all

lemma canonical_truthWord (v : Value) : canonical (truthWord v) = canonical v := by
  unfold truthWord
  split <;> rfl

/-- No word for a truth value is left, and a text is one that holds no place. -/
lemma Tree.text (h : Tree v) : truthWord (canonical v) = canonical v ∧ (canonical v).isText = !holdsPlace v ∧
    ((canonical v).isText → ∃ s, canonical v = .str s) := by
  rw [holdsPlace,Bool.not_not]
  cases h with
  | scalar h =>
    have hs := scalar_truthWord h
    rw [canonical_scalar h]
    refine ⟨truthWord_truthWord v,rfl,fun ht => ?_⟩
    generalize truthWord v = w at hs ht
    cases w with
    | str s => exact ⟨s,rfl⟩
    | _ => cases ht <;> cases hs
  | list | dict => exact ⟨rfl,rfl,nofun⟩

lemma filter_canonical (h : ∀ x ∈ xs, Tree x) :
    (xs.map canonical).filter (fun x => !x.isText) = (xs.filter holdsPlace).map canonical := by
  rw [filter_map]
  exact congrArg _ (filter_congr fun x hx => by simp [(h x hx).text.2.1])

lemma textsLast_eq_of_perm (hx : ∀ x ∈ xs, Tree x) (h : xs.Perm ys) (hp : xs.filter holdsPlace = ys.filter holdsPlace) :
    textsLast (xs.map canonical) = textsLast (ys.map canonical) := by
  rw [textsLast,textsLast,filter_canonical hx,filter_canonical fun y hy => hx y (h.mem_iff.2 hy),hp]
  refine congrArg _ (sortOn_eq_of_perm ((h.map canonical).filter Value.isText) fun a ha b hb hab => ?_)
  simp only [mem_filter,mem_map] at ha hb
  obtain ⟨⟨x,hxs,rfl⟩,hxt⟩ := ha
  obtain ⟨⟨y,hys,rfl⟩,hyt⟩ := hb
  obtain ⟨s,hs⟩ := (hx x hxs).text.2.2 hxt
  obtain ⟨t,ht⟩ := (hx y hys).text.2.2 hyt
  rw [hs,ht] at hab ⊢
  exact congrArg Value.str hab

lemma canonical_of_tidied (h : Tidied v w) (hv : Tree v) : Tree w ∧ canonical w = canonical v := by
  induction h with
  | word v =>
    refine ⟨?_,canonical_truthWord v⟩
    unfold truthWord
    split <;> first | exact .scalar rfl | exact hv
  | @fields fs gs h =>
    obtain ⟨⟨⟩⟩ | _ | ⟨hn,ha,hp⟩ := hv
    have hk := h.map Prod.fst
    have hg : "alias" ∉ Fields.keys gs := mt hk.mem_iff.2 ha
    refine ⟨.dict (hk.nodup_iff.1 hn) hg fun f hf => hp f (h.mem_iff.2 hf),?_⟩
    rw [canonical_dict ha,canonical_dict hg]
    refine congrArg _ (sortOn_eq_of_perm (h.map _) fun a ha b hb => ?_).symm
    exact inj_on_of_nodup_map (by rwa [map_map]) ha hb
  | items h hp =>
    obtain ⟨⟨⟩⟩ | hx := hv
    refine ⟨.list fun x hm => hx x (h.mem_iff.2 hm),?_⟩
    rw [canonical_list,canonical_list,textsLast_eq_of_perm hx h hp]
  | inField k fs gs _ ih =>
    obtain ⟨⟨⟩⟩ | _ | ⟨hn,ha,hp⟩ := hv
    obtain ⟨hf,hv,hg⟩ := by simpa only [forall_mem_append,forall_mem_cons] using hp
    obtain ⟨hw,hc⟩ := ih hv
    have hk : ∀ x y : Value, Fields.keys (fs ++ (k,x) :: gs) = Fields.keys (fs ++ (k,y) :: gs) := by simp [Fields.keys]
    refine ⟨.dict (hk _ _ ▸ hn) (hk _ _ ▸ ha) (by simpa only [forall_mem_append,forall_mem_cons] using ⟨hf,hw,hg⟩),?_⟩
    rw [canonical_dict ha,canonical_dict (hk _ _ ▸ ha)]
    simp only [map_append,map_cons,hc]
  | inItem xs ys _ ih =>
    obtain ⟨⟨⟩⟩ | hx := hv
    obtain ⟨hxs,hv,hys⟩ := by simpa only [forall_mem_append,forall_mem_cons] using hx
    obtain ⟨hw,hc⟩ := ih hv
    refine ⟨.list (by simpa only [forall_mem_append,forall_mem_cons] using ⟨hxs,hw,hys⟩),?_⟩
    simp only [canonical_list,map_append,map_cons,hc]

lemma canonical_of_steps (h : ReflTransGen Tidied v w) (hv : Tree v) : Tree w ∧ canonical w = canonical v := by
  induction h with
  | refl => exact ⟨hv,rfl⟩
  | tail _ h ih =>
    obtain ⟨hw,hc⟩ := canonical_of_tidied h ih.1
    exact ⟨hw,hc.trans ih.2⟩

/-- Steps in the parts of a value are steps of the value. -/
lemma steps_parts {α : Type} {build : List α → Value} {f : α → α} (xs : List α)
    (h : ∀ x ∈ xs, ∀ pre post, ReflTransGen Tidied (build (pre ++ x :: post)) (build (pre ++ f x :: post)))
    (pre : List α) : ReflTransGen Tidied (build (pre ++ xs)) (build (pre ++ xs.map f)) := by
  induction xs generalizing pre with
  | nil => exact .refl
  | cons x xs ih =>
    obtain ⟨hx,hr⟩ := forall_mem_cons.1 h
    have hs := ih hr (pre ++ [f x])
    rw [append_assoc,append_assoc] at hs
    exact (hx pre _).trans hs

lemma textsLast_tidied (h : ∀ y ∈ ys, truthWord y = y) : Tidied (.list ys) (.list (textsLast ys)) := by
  have hy : ∀ y ∈ ys, holdsPlace y = !y.isText := fun y hy => by rw [holdsPlace,h y hy]
  refine .items ((filter_append_perm Value.isText ys).symm.trans (perm_append_comm.trans ?_)) ?_
  · exact Perm.append_left _ (mergeSort_perm _ _).symm
  · have hs : (sortOn (fun x => x.text?.getD "") (ys.filter Value.isText)).filter holdsPlace = [] := by
      refine filter_eq_nil_iff.2 fun y hm => ?_
      obtain ⟨hm,ht⟩ := mem_filter.1 (mem_mergeSort.1 hm)
      simp [hy y hm,ht]
    rw [textsLast,filter_append,hs,append_nil,filter_filter]
    exact filter_congr fun y hm => by rw [hy y hm,Bool.and_self]

lemma canonical_steps (hv : Tree v) : ReflTransGen Tidied v (canonical v) := by
  induction hv with
  | scalar h => exact canonical_scalar h ▸ .single (.word _)
  | list hp ih =>
    have hs := @steps_parts _ Value.list _ _
      (fun x hx pre post => (ih x hx).lift (fun v => Value.list (pre ++ v :: post)) fun _ _ h => .inItem pre post h) []
    rw [canonical_list]
    exact hs.tail (textsLast_tidied (forall_mem_map.2 fun x hx => (hp x hx).text.1))
  | dict _ ha _ ih =>
    have hs := @steps_parts _ Value.dict (fun f => (f.1,canonical f.2)) _
      (fun f hf pre post => (ih f hf).lift (fun v => Value.dict (pre ++ (f.1,v) :: post)) fun _ _ h => .inField _ pre post h) []
    rw [canonical_dict ha]
    exact hs.tail (.fields (mergeSort_perm _ _).symm)

/-- A second time changes nothing; neither words nor orders show; and only words and orders have changed. -/
theorem canonical_form (hv : Tree v) : canonical (canonical v) = canonical v ∧
    (∀ w, ReflTransGen Tidied v w → canonical w = canonical v) ∧ ReflTransGen Tidied v (canonical v) :=
  have hs := canonical_steps hv
  ⟨(canonical_of_steps hs hv).2,fun _ h => (canonical_of_steps h hv).2,hs⟩

def unsorted : Value := .dict [("ports",.list ["b",.int 80,"true","a"]),("name","x")]

theorem canonical_form_unsorted : Tree unsorted ∧
    canonical (.dict [("name","x"),("ports",.list [.int 80,"true","a","b"])]) = canonical unsorted := by
  have hv : Tree unsorted := .dict (by decide) (by decide) (by
    simpa using ⟨.list (by simpa using ⟨.scalar rfl,.scalar rfl,.scalar rfl,.scalar rfl⟩),.scalar rfl⟩)
  have hi : Tidied unsorted (.dict [("ports",.list [.int 80,"true","a","b"]),("name","x")]) :=
    .inField "ports" [] _ (.items (perm_append_singleton (Value.str "b") _).symm rfl)
  exact ⟨hv,(canonical_form hv).2.1 _ (.tail (.single hi) (.fields (.swap _ _ _)))⟩

end InfraAudit.Terraform
