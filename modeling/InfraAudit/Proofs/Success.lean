import InfraAudit.Value.Access
import Mathlib

namespace InfraAudit

open List Except Prod

variable {α β γ : Type}

@[simp] lemma ok_bind (a : α) (f : α → Result β) : (ok a >>= f) = f a := rfl

@[simp] lemma error_bind (e : Fault) (f : α → Result β) : (error e >>= f) = error e := rfl

@[simp] lemma pure_eq_ok (a : α) : (pure a : Result α) = .ok a := rfl

@[simp] lemma isOk_ok (a : α) : (ok a : Result α).isOk := rfl

@[simp] lemma isOk_error (e : Fault) : (error e : Result α).isOk = false := rfl

variable {f : α → Result β} {b : β} {l : List α}

lemma bind_eq_ok : r >>= f = .ok b ↔ ∃ a, r = .ok a ∧ f a = .ok b := by
  cases r with
  | error e => simp
  | ok a => simp

lemma exists_of_isOk {r : Result α} (h : r.isOk) : ∃ a, r = .ok a := by
  cases r with
  | ok a => exact ⟨a,rfl⟩
  | error e => simp at h

lemma eq_ok_of_toOption {r : Result α} (h : r.toOption = some a) : r = .ok a := by
  cases r with
  | error e => cases h
  | ok b => exact congrArg ok (Option.some.inj h)

lemma mapM_eq_ok : l.mapM f = .ok bs ↔ Forall₂ (fun a b => f a = .ok b) l bs := by
  induction l generalizing bs with
  | nil => simp [eq_comm]
  | cons a l ih =>
    rw [mapM_cons,forall₂_cons_left_iff]
    simp only [bind_eq_ok,ih,pure_eq_ok,Except.ok.injEq]
    grind

lemma exists_mapM_iff : (∃ bs, l.mapM f = .ok bs) ↔ ∀ a ∈ l, ∃ b, f a = .ok b := by
  simp only [mapM_eq_ok]
  induction l with
  | nil => simp
  | cons a l ih =>
    rw [forall_mem_cons,← ih]
    constructor
    · rintro ⟨_,_ | ⟨hb,hbs⟩⟩
      exact ⟨⟨_,hb⟩,_,hbs⟩
    · rintro ⟨⟨b,hb⟩,bs,hbs⟩
      exact ⟨b :: bs,.cons hb hbs⟩

lemma mem_flatMap_of_mapM (h : l.mapM f = .ok bs) (part : β → List γ)
    (x : γ) : x ∈ bs.flatMap part ↔ ∃ a ∈ l, ∃ b, f a = .ok b ∧ x ∈ part b := by
  have hal := mapM_eq_ok.1 h
  clear h
  induction hal with
  | nil => simp
  | @cons a o l os ha _ ih =>
    simp only [flatMap_cons,mem_append,exists_mem_cons_iff,ha,ok.injEq,exists_eq_left',ih]

lemma of_foldlM {f : β → α → Result β} (P : β → Prop)
    (hs : ∀ b a b', a ∈ l → P b → f b a = .ok b' → P b') {b' : β} (hb : P b) (h : l.foldlM f b = .ok b') : P b' := by
  induction l generalizing b with
  | nil =>
    cases h
    exact hb
  | cons a l ih =>
    rw [foldlM_cons] at h
    obtain ⟨b₁,hf,hr⟩ := bind_eq_ok.1 h
    exact ih (fun b a b' ha => hs b a b' (mem_cons_of_mem _ ha)) (hs b a b₁ mem_cons_self hb hf) hr

lemma mem_of_lookup [BEq α] [LawfulBEq α] {l : List (α × β)} (h : l.lookup a = some b) : (a,b) ∈ l := by
  obtain ⟨l₁,l₂,rfl,-⟩ := lookup_eq_some_iff.1 h
  simp

def isYes : Result Bool → Bool
  | .ok b => b
  | .error _ => false

lemma filterAuxM_eq_ok (acc : List α) : l.filterAuxM p acc = .ok l' ↔
    (∀ a ∈ l, ∃ b, p a = .ok b) ∧ l' = (l.filter fun a => isYes (p a)).reverse ++ acc := by
  induction l generalizing acc with
  | nil => simp [List.filterAuxM,eq_comm]
  | cons a l ih =>
    rw [List.filterAuxM,forall_mem_cons,filter_cons]
    cases p a with
    | error e => simp
    | ok b => cases b <;> simp [ih,isYes]

lemma filterM_eq_ok : l.filterM p = .ok l' ↔ (∀ a ∈ l, ∃ b, p a = .ok b) ∧ l' = l.filter fun a => isYes (p a) := by
  simp only [List.filterM,bind_eq_ok,filterAuxM_eq_ok]
  simp [eq_comm]

lemma filterM_ok (p : α → Bool) (l : List α) : l.filterM (fun x => (.ok (p x) : Result Bool)) = .ok (l.filter p) :=
  filterM_eq_ok.2 ⟨fun a _ => ⟨p a,rfl⟩,rfl⟩

lemma exists_filterMapM_iff {f : α → Result (Option β)} :
    (∃ bs, l.filterMapM f = .ok bs) ↔ ∀ a ∈ l, ∃ o, f a = .ok o := by
  induction l with
  | nil => simp
  | cons a l ih =>
    rw [forall_mem_cons,← ih,filterMapM_cons]
    cases f a with
    | error e => simp
    | ok o => cases o <;> simp [bind_eq_ok]

lemma forall₂_filterMapM {f : α → Result (Option β)} {p : α → Bool} {R : α → β → Prop}
    (hf : ∀ a ∈ l, ∀ o, f a = .ok o → (p a ∧ ∃ b, o = some b ∧ R a b) ∨ (p a = false ∧ o = none)) {bs : List β}
    (h : l.filterMapM f = .ok bs) : Forall₂ R (l.filter p) bs := by
  induction l generalizing bs with
  | nil =>
    cases h
    exact .nil
  | cons a l ih =>
    rw [filterMapM_cons] at h
    obtain ⟨o,ho,h⟩ := bind_eq_ok.1 h
    have hr : ∀ {bs}, l.filterMapM f = .ok bs → Forall₂ R (l.filter p) bs := ih fun a ha => hf a (mem_cons_of_mem _ ha)
    rcases hf a mem_cons_self o ho with ⟨hp,b,rfl,hb⟩ | ⟨hp,rfl⟩
    · obtain ⟨rest,hl,h⟩ := bind_eq_ok.1 h
      cases h
      rw [filter_cons_of_pos hp]
      exact .cons hb (hr hl)
    · rw [filter_cons_of_neg (by simp [hp])]
      exact hr h

lemma anyM_eq {f : α → Result Bool} {g : β → Bool} {os : List β}
    (h : Forall₂ (fun a o => f a = .ok (g o)) l os) : l.anyM f = .ok (os.any g) := by
  induction h with
  | nil => rfl
  | @cons a o l os ha _ ih =>
    rw [anyM,ha,any_cons]
    cases g o with
    | true => rfl
    | false => exact ih

lemma anyM_single (f : α → Result Bool) (a : α) : [a].anyM f = f a := by
  rw [anyM]
  cases f a with
  | error e => rfl
  | ok b => cases b <;> rfl

section

variable [BEq α] [LawfulBEq α]

variable {l : List (α × β)}

lemma isSome_lookup {e : α × β} (h : e ∈ l) : (l.lookup e.1).isSome := lookup_isSome_iff.2 ⟨e,h,beq_self_eq_true _⟩

lemma lookup_of_mem (hk : (l.map fst).Nodup) (h : (a,b) ∈ l) : l.lookup a = some b := by
  induction l with
  | nil => cases h
  | cons e l ih =>
    obtain ⟨hn,hk⟩ := nodup_cons.1 hk
    rcases mem_cons.1 h with rfl | hm
    · simp [lookup]
    · have hne : a ≠ e.1 := fun heq => hn (heq ▸ mem_map_of_mem hm)
      simpa [lookup,beq_false_of_ne hne] using ih hk hm

lemma lookup_upsert (k : α) (d : β) (f : β → β) (l : List (α × β)) (q : α) :
    (upsert k d f l).lookup q = if q == k then some (f ((l.lookup k).getD d)) else l.lookup q := by
  induction l with
  | nil => cases hq : q == k <;> simp [upsert,lookup,hq]
  | cons e l ih =>
    rw [upsert]
    split
    · next hs => cases hq : q == k <;> simp [lookup,eq_of_beq hs,hq]
    · next ho =>
      have hne : k ≠ e.1 := fun heq => ho (by simp [heq])
      by_cases hq : q = e.1
      · simp [lookup,hq,hne.symm]
      · simp [lookup,ih,beq_false_of_ne hq,beq_false_of_ne hne]

lemma keys_upsert (k : α) (d : β) (f : β → β) (l : List (α × β)) :
    (upsert k d f l).map fst = if k ∈ l.map fst then l.map fst else l.map fst ++ [k] := by
  induction l with
  | nil => rfl
  | cons e l ih =>
    rw [upsert]
    split
    · next hs => simp [← eq_of_beq hs]
    · next ho =>
      have hne : k ≠ e.1 := fun heq => ho (by simp [heq])
      simp only [map_cons,ih,mem_cons,hne,false_or]
      split <;> rfl

lemma nodup_upsert (h : (l.map fst).Nodup) (k : α) (d : β) (f : β → β) : ((upsert k d f l).map fst).Nodup := by
  rw [keys_upsert]
  split
  · exact h
  · next hk => simpa using h.concat hk

omit [LawfulBEq α] in
lemma forall_mem_upsert {P : β → Prop} {k : α} {d : β} {f : β → β} (hd : P (f d))
    (hf : ∀ b, P b → P (f b)) (h : ∀ e ∈ l, P e.2) : ∀ e ∈ upsert k d f l, P e.2 := by
  induction l with
  | nil => exact forall_mem_singleton.2 hd
  | cons e l ih =>
    obtain ⟨he,hl⟩ := forall_mem_cons.1 h
    rw [upsert]
    split
    · exact forall_mem_cons.2 ⟨hf _ he,hl⟩
    · exact forall_mem_cons.2 ⟨he,ih hl⟩

end

lemma Fields.lookup_cons (f : String × Value) (fs : Fields) (q : String) :
    lookup q (f::fs) = if q = f.1 then some f.2 else fs.lookup q := by
  by_cases h : q = f.1
  · simp [lookup,h]
  · simp [lookup,beq_false_of_ne h,h]

lemma Fields.insert_eq_upsert (k : String) (v : Value) (fs : Fields) : insert k v fs = upsert k v (fun _ => v) fs := by
  induction fs with
  | nil => rfl
  | cons f fs ih => grind [insert,upsert]

lemma Fields.lookup_insert (key : String) (v : Value) (fs : Fields) (q : String) :
    (Fields.insert key v fs).lookup q = if q = key then some v else fs.lookup q := by
  simp [insert_eq_upsert,lookup_upsert]

section

variable {v w : Value}

lemma getOr_of_isDict (h : v.isDict) (k : String) (d : Value) : v.getOr k d = .ok ((v.get? k).getD d) := by
  cases v with
  | dict fs => rfl
  | table es => rfl
  | _ => cases h

lemma get_of_isDict (h : v.isDict) (k : String) : v.get k = .ok (v.getD k) := getOr_of_isDict h k .null

lemma has_of_isDict (h : v.isDict) (k : String) : v.has k = .ok (v.hasKey k) := by
  cases v with
  | dict fs => rfl
  | table es => rfl
  | _ => cases h

lemma text?_of_eq_right (h : v.eq w) (hw : w.text? = some s) : v.text? = some s := by
  cases v <;> cases w <;> simp_all [Value.eq,Value.eqScalar,Value.text?,Value.int?]

lemma field_of_get? (h : v.get? key = some w) : v.field key = .ok w := by
  cases v with
  | dict fs =>
    show (fs.lookup key).elim (error Fault.missingKey) ok = _
    rw [show fs.lookup key = some w from h]
    rfl
  | table es =>
    show (Value.findEntry _ es).elim (error Fault.missingKey) ok = _
    rw [show Value.findEntry _ es = some w from h]
    rfl
  | _ => cases h

end

lemma field_of_lookup {fs : Fields} (h : fs.lookup key = some v) : (Value.dict fs).field key = .ok v := field_of_get? h

lemma nestingItems_le_iff : Value.nesting.nestingItems xs ≤ n ↔ ∀ x ∈ xs, x.nesting ≤ n := by
  induction xs with
  | nil => simp [Value.nesting.nestingItems]
  | cons x xs ih => rw [Value.nesting.nestingItems,max_le_iff,ih,forall_mem_cons]

lemma Text.le_iff {s t : String} : Text.le s t ↔ s ≤ t := by
  rw [Text.le,Text.lt,Bool.not_eq_true',decide_eq_false_iff_not,String.not_lt]

lemma elem_texts (w : String) (ss : List String) : (Value.str w).elem (ss.map .str) = ss.contains w := by
  rw [Value.elem,any_map,contains_eq_any_beq]
  congr 1
  funext s
  exact Value.beq_str w s

end InfraAudit
