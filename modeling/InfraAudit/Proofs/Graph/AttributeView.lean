import InfraAudit.Graph.Basic
import InfraAudit.Proofs.Graph.Flattening

/-!
The attributes of a block as others see them. The parts of an attribute stand under dotted names beside it, so a name without a
dot shows the attribute itself, where a list of one item has given way to the item.
-/

set_option autoImplicit false

namespace InfraAudit.Graph

open List Text Fields

variable {v w x : Value} {key q : String} {p : List Step} {fs new : Fields}

lemma itemsWithoutEmptyKeys_eq {xs : List Value} (h : ∀ x ∈ xs, withoutEmptyKeys x = x) : itemsWithoutEmptyKeys xs = xs := by
  induction xs with
  | nil => rfl
  | cons x xs ih =>
    obtain ⟨hx,hxs⟩ := forall_mem_cons.1 h
    rw [itemsWithoutEmptyKeys,hx,ih hxs]

lemma fieldsWithoutEmptyKeys_eq (h : ∀ f ∈ fs, f.1 ≠ "" ∧ withoutEmptyKeys f.2 = f.2) : fieldsWithoutEmptyKeys fs = fs := by
  induction fs with
  | nil => rfl
  | cons f fs ih =>
    obtain ⟨⟨hk,hf⟩,hfs⟩ := forall_mem_cons.1 h
    rw [fieldsWithoutEmptyKeys,if_neg (by simpa using hk),hf,ih hfs]

namespace Plain

lemma withoutEmptyKeys_eq (hv : Plain v) : withoutEmptyKeys v = v := by
  induction hv with
  | @intro v _ hk _ ih =>
    cases v with
    | list xs =>
      have hxs : ∀ x ∈ xs, withoutEmptyKeys x = x := by
        intro x hx
        obtain ⟨i,hi⟩ := mem_iff_getElem?.1 hx
        exact ih (.index i,x) (mem_map_of_mem (a := (x,i)) (mem_zipIdx_iff_getElem?.2 hi))
      rw [withoutEmptyKeys,itemsWithoutEmptyKeys_eq hxs]
    | dict fs =>
      rw [withoutEmptyKeys,fieldsWithoutEmptyKeys_eq]
      exact fun f hf => ⟨((hk fs rfl).2 f.1 (mem_map_of_mem hf)).1,ih _ (mem_map_of_mem hf)⟩
    | _ => rfl

lemma subtree (hv : Plain v) (hp : subtree? p v = some w) : Plain w := by
  induction p generalizing v with
  | nil =>
    cases hp
    exact hv
  | cons s p ih =>
    obtain ⟨x,hx,hp⟩ := Option.bind_eq_some_iff.1 hp
    exact ih (hv.children.2 _ (mem_of_lookup hx)).2 hp

lemma unwrapped (hv : Plain v) : Plain v.unwrapped := by
  unfold Value.unwrapped
  split
  · exact (hv.children.2 _ mem_cons_self).2
  · exact hv

end Plain

lemma dot_mem_pathName (h : '.' ∈ key.toList) : '.' ∈ (pathName key p).toList := by
  induction p generalizing key with
  | nil => exact h
  | cons s p ih => exact ih (by simp [dotted])

/-- Only the value itself stands under a name without a dot. -/
lemma Plain.of_mem_innerAttributes (hv : Plain v) (hm : (q,w) ∈ innerAttributes false false key v) :
    Plain w ∧ (Undotted q → q = key ∧ w = v) := by
  rw [hv.innerAttributes_eq,ofPairs] at hm
  have hlookup := InfraAudit.lookup_of_mem (@nodup_update [] nodup_nil _) hm
  rw [lookup_update,lookup_nil,Option.or_none] at hlookup
  obtain ⟨p,hp,rfl⟩ := (hv.mem_iff key q).1 (mem_reverse.1 (mem_of_lookup hlookup))
  refine ⟨hv.subtree hp,fun hq => ?_⟩
  cases p with
  | nil =>
    cases hp
    exact ⟨rfl,rfl⟩
  | cons s p =>
    have hdot : '.' ∈ (dotted key s.text).toList := by simp [dotted]
    exact absurd (dot_mem_pathName hdot) hq

lemma lookup_update_of_forall (hnew : ∀ w, (q,w) ∈ new → fs.lookup q = some w) : (update fs new).lookup q = fs.lookup q := by
  rw [lookup_update]
  cases hw : new.reverse.lookup q with
  | none => rfl
  | some w => exact (hnew w (mem_reverse.1 (mem_of_lookup hw))).symm

namespace Block

variable {b : Block}

/-- The attributes of a block that is made: those given, and what they hold under dotted names. -/
lemma attributes_make (hb : b.origin? = none) (hkeys : (keys b.attributes).Nodup) (hplain : ∀ f ∈ b.attributes, Plain f.2) :
    (keys b.make.attributes).Nodup ∧ (∀ f ∈ b.make.attributes, Plain f.2) ∧
      ∀ q, Undotted q → b.make.attributes.lookup q = b.attributes.lookup q := by
  obtain ⟨added,hmake,hadded⟩ : ∃ added, b.make.attributes = update b.attributes added ∧
      ∀ q w, (q,w) ∈ added → Plain w ∧ (Undotted q → b.attributes.lookup q = some w) := by
    refine ⟨_,rfl,fun q w hm => ?_⟩
    obtain ⟨⟨k,v⟩,hkv,hm⟩ := mem_flatMap.1 hm
    dsimp only at hm
    split at hm
    · rw [unwraps,hb] at hm
      obtain ⟨hw,hundotted⟩ := (hplain _ hkv).of_mem_innerAttributes hm
      refine ⟨hw,fun hq => ?_⟩
      obtain ⟨rfl,rfl⟩ := hundotted hq
      exact InfraAudit.lookup_of_mem hkeys hkv
    · cases hm
  have hnodup := nodup_update hkeys added
  rw [hmake]
  refine ⟨hnodup,fun f hf => ?_,fun q hq => lookup_update_of_forall fun w hw => (hadded q w hw).2 hq⟩
  have hlookup := InfraAudit.lookup_of_mem hnodup hf
  rw [lookup_update,Option.or_eq_some_iff] at hlookup
  obtain hnew | ⟨-,hgiven⟩ := hlookup
  · exact (hadded _ _ (mem_reverse.1 (mem_of_lookup hnew))).1
  · exact hplain _ (mem_of_lookup hgiven)

/-- An attribute shows itself under its own name, and else only under names with a dot. -/
lemma mem_shown (hb : b.origin? = none) (hv : Plain v) (hself : q ∉ ["self","self_"]) (hq : Undotted q) :
    (q,w) ∈ b.shown key v ↔ q = key ∧ w = v.unwrapped := by
  simp only [mem_cons,not_mem_nil,or_false,not_or] at hself
  have hdot : q = key → contains key "." = false := by
    rintro rfl
    rw [Bool.eq_false_iff,ne_eq,contains_dot_iff,undotted_iff.1 hq]
    decide
  obtain ⟨x,hx,hplain⟩ : ∃ x, (if contains key "." then v else v.unwrapped) = x ∧ Plain x := by
    refine ⟨_,rfl,?_⟩
    split
    · exact hv
    · exact hv.unwrapped
  have hshown : q = key → v.unwrapped = x := by
    intro h
    rw [← hx,hdot h]
    rfl
  rw [shown,unwraps,hb,hx]
  split
  · next hkey =>
    have hne : q ≠ key := fun h => hself.1 (h.trans (eq_of_beq hkey))
    simp [hself.2,hne]
  · rw [hplain.withoutEmptyKeys_eq,mem_append,mem_singleton,Prod.mk.injEq]
    constructor
    · rintro (hm | ⟨rfl,rfl⟩)
      · obtain ⟨hkey,rfl⟩ := (hplain.of_mem_innerAttributes hm).2 hq
        exact ⟨hkey,(hshown hkey).symm⟩
      · exact ⟨rfl,(hshown rfl).symm⟩
    · rintro ⟨rfl,rfl⟩
      exact .inr ⟨rfl,hshown rfl⟩

/-- A name that is no attribute of every block shows what is given under it. -/
lemma lookup_attributeView (hb : b.origin? = none) (hcrumbs : b.breadcrumbs = []) (hkind : b.kind ≠ "data")
    (hkeys : (keys b.attributes).Nodup) (hplain : ∀ f ∈ b.attributes, Plain f.2) (hq : Undotted q)
    (hself : q ∉ ["self","self_"])
    (hbase : q ∉ ["block_name_","block_type_","file_path_","config_","label_","id_","source_"]) :
    (b.make.attributeView false).lookup q = (b.attributes.lookup q).map Value.unwrapped := by
  obtain ⟨hmkeys,hmplain,hmake⟩ := attributes_make hb hkeys hplain
  have hmem : ∀ w, (q,w) ∈ (b.make.attributes.flatMap fun f => b.make.shown f.1 f.2).reverse ↔
      (b.attributes.lookup q).map Value.unwrapped = some w := by
    intro w
    rw [mem_reverse,mem_flatMap,← hmake q hq,Option.map_eq_some_iff]
    constructor
    · rintro ⟨⟨k,v⟩,hf,hm⟩
      obtain ⟨rfl,rfl⟩ := (mem_shown (b := b.make) hb (hmplain _ hf) hself hq).1 hm
      exact ⟨v,InfraAudit.lookup_of_mem hmkeys hf,rfl⟩
    · rintro ⟨v,hv,rfl⟩
      have hf := mem_of_lookup hv
      exact ⟨_,hf,(mem_shown (b := b.make) hb (hmplain _ hf) hself hq).2 ⟨rfl,rfl⟩⟩
  have hview : b.make.attributeView false = b.make.plainAttributes := by
    rw [attributeView,withDataType,if_neg (by simpa [make] using hkind)]
    rfl
  simp only [mem_cons,not_or,not_mem_nil,not_false_eq_true,and_true] at hbase
  rw [hview,plainAttributes,show b.make.origin? = none from hb,show b.make.breadcrumbs = [] from hcrumbs]
  simp only [isEmpty_nil,if_true,lookup_update]
  cases hw : (b.make.attributes.flatMap fun f => b.make.shown f.1 f.2).reverse.lookup q with
  | some w => rw [(hmem w).1 (mem_of_lookup hw)]; rfl
  | none =>
    cases hn : (b.attributes.lookup q).map Value.unwrapped with
    | none => simp [Fields.lookup_cons,hbase]
    | some w =>
      have hsome := isSome_lookup ((hmem w).2 hn)
      rw [hw] at hsome
      cases hsome

end Block

end InfraAudit.Graph
