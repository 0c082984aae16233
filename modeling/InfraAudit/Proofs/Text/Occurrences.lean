import InfraAudit.Text.Basic
import Mathlib.Data.List.DropRight

namespace InfraAudit.Text

open List

lemma findFrom_eq_some (h : findFrom pat i s = some j) : ∃ x y, s = x ++ pat ++ y ∧ j = i+x.length := by
  induction s generalizing i with
  | nil =>
    simp only [findFrom] at h
    split at h
    · next hp =>
      rw [isEmpty_iff.mp hp]
      exact ⟨[],[],rfl,by simpa using h.symm⟩
    · simp at h
  | cons c s ih =>
    simp only [findFrom] at h
    split at h
    · next hpr =>
      obtain ⟨y,hy⟩ := isPrefixOf_iff_prefix.mp hpr
      exact ⟨[],y,hy.symm,by simpa using h.symm⟩
    · obtain ⟨x,y,rfl,rfl⟩ := ih h
      exact ⟨c :: x,y,rfl,by simp only [length_cons]; omega⟩

lemma findFrom_isSome_of_append (pat x y : List Char) (i : Nat) : (findFrom pat i (x ++ pat ++ y)).isSome := by
  induction x generalizing i with
  | nil =>
    cases h : pat ++ y with
    | nil => simp_all [findFrom]
    | cons c s =>
      have hp : pat.isPrefixOf (c::s) := by simp [← h]
      simp [findFrom,h,hp]
  | cons c x ih =>
    simp only [cons_append,findFrom]
    split
    · rfl
    · exact ih (i+1)

lemma le_of_findFrom (h : findFrom pat i s = some j) (hs : s = x ++ pat ++ y) : j ≤ i+x.length := by
  induction s generalizing i x with
  | nil =>
    rw [findFrom] at h
    split at h
    · cases h
      omega
    · cases h
  | cons c s ih =>
    rw [findFrom] at h
    split at h
    · cases h
      omega
    · next hn =>
      cases x with
      | nil =>
        refine absurd ?_ hn
        exact isPrefixOf_iff_prefix.2 ⟨y,by simpa using hs.symm⟩
      | cons d x =>
        have hle := ih h (by simpa using (cons.inj hs).2)
        rw [length_cons]
        omega

lemma contains_iff {s pat : String} : contains s pat ↔ pat.toList <:+: s.toList := by
  constructor
  · intro h
    obtain ⟨j,hj⟩ := Option.isSome_iff_exists.mp h
    obtain ⟨x,y,hs,-⟩ := findFrom_eq_some hj
    exact ⟨x,y,hs.symm⟩
  · rintro ⟨x,y,hs⟩
    rw [contains,find?,← hs]
    exact findFrom_isSome_of_append _ _ _ _

lemma contains_eq_false {s pat : String} (hc : c ∈ pat.toList) (h : c ∉ s.toList) : contains s pat = false := by
  rw [Bool.eq_false_iff,ne_eq,contains_iff]
  exact fun hp => h (hp.subset hc)

lemma replaceAux_skip (old new : List Char) (k : Nat) (s : List Char) :
    replaceAux old new k s = replaceAux old new 0 (s.drop k) := by
  induction k generalizing s with
  | zero => rfl
  | succ k ih =>
    cases s with
    | nil => rfl
    | cons c s => exact ih s

lemma replaceAux_cons_of_not (new : List Char)
    (h : ¬ old <+: c :: s) : replaceAux old new 0 (c::s) = c :: replaceAux old new 0 s := by
  rw [← isPrefixOf_iff_prefix] at h
  simp [replaceAux,h]

lemma replaceAux_eq_self (new : List Char) (hc : c ∈ old)
    (h : c ∉ cs) : replaceAux old new 0 cs = cs := by
  induction cs with
  | nil => rfl
  | cons d cs ih =>
    have hn : ¬ old <+: d :: cs := fun hp => h (hp.subset hc)
    rw [replaceAux_cons_of_not new hn,ih fun hm => h (by simp [hm])]

lemma replace_eq_self {s old : String} (new : String) (hc : c ∈ old.toList) (h : c ∉ s.toList) :
    replace s old new = s := by
  have hne : old.toList.isEmpty = false := by
    cases hold : old.toList with
    | nil => simp [hold] at hc
    | cons d r => rfl
  rw [replace,replaceChars,hne,if_neg (by decide),replaceAux_eq_self _ hc h,String.ofList_toList]

lemma replaceAux_append (new s : List Char) (hold : old ≠ []) :
    replaceAux old new 0 (old ++ s) = new ++ replaceAux old new 0 s := by
  obtain ⟨c,r,rfl⟩ := exists_cons_of_ne_nil hold
  have hp : (c::r).isPrefixOf (c :: (r ++ s)) := by simp
  rw [cons_append,replaceAux,if_pos hp,replaceAux_skip]
  simp

def occurrences (old : List Char) : Nat → List Char → Nat
  | _,[] => 0
  | k+1,_ :: r => occurrences old k r
  | 0,c :: r =>
    if old.isPrefixOf (c::r) then occurrences old (old.length - 1) r+1 else occurrences old 0 r

lemma occurrences_skip (old : List Char) (k : Nat) (s : List Char) :
    occurrences old k s = occurrences old 0 (s.drop k) := by
  induction k generalizing s with
  | zero => rfl
  | succ k ih =>
    cases s with
    | nil => rfl
    | cons c s => exact ih s

lemma occurrences_cons_of_not (h : ¬ old <+: c :: s) : occurrences old 0 (c::s) = occurrences old 0 s := by
  rw [← isPrefixOf_iff_prefix] at h
  simp [occurrences,h]

lemma occurrences_append (s : List Char) (hold : old ≠ []) : occurrences old 0 (old ++ s) = occurrences old 0 s+1 := by
  obtain ⟨c,r,rfl⟩ := exists_cons_of_ne_nil hold
  have hp : (c::r).isPrefixOf (c :: (r ++ s)) := by simp
  rw [cons_append,occurrences,if_pos hp,occurrences_skip]
  simp

lemma prefix_cases (old s : List Char) : s = [] ∨ (∃ r, s = old ++ r) ∨ ∃ c r, s = c :: r ∧ ¬ old <+: c :: r := by
  cases s with
  | nil => exact .inl rfl
  | cons c s =>
    by_cases h : old <+: c :: s
    · obtain ⟨r,hr⟩ := h
      exact .inr (.inl ⟨r,hr.symm⟩)
    · exact .inr (.inr ⟨c,s,rfl,h⟩)

@[elab_as_elim]
lemma occurrence_induction (hold : old ≠ []) {motive : List Char → Prop} (nil : motive [])
    (append : ∀ r, motive r → motive (old ++ r))
    (cons : ∀ c r, ¬ old <+: c :: r → motive r → motive (c::r)) (s : List Char) : motive s := by
  have hp : 0 < old.length := length_pos_of_ne_nil hold
  induction hn : s.length using Nat.strongRecOn generalizing s with
  | ind n ih =>
    rcases prefix_cases old s with rfl | ⟨r,rfl⟩ | ⟨c,r,rfl,hnt⟩
    · exact nil
    · exact append r (ih r.length (by simp at hn; omega) r rfl)
    · exact cons c r hnt (ih r.length (by simp at hn; omega) r rfl)

lemma length_replaceAux (new : List Char) (hold : old ≠ []) (s : List Char) :
    (replaceAux old new 0 s).length+old.length*occurrences old 0 s = s.length+new.length*occurrences old 0 s := by
  induction s using occurrence_induction hold with
  | nil => simp [replaceAux,occurrences]
  | append r ih =>
    rw [replaceAux_append new r hold,occurrences_append r hold]
    simp only [length_append,Nat.mul_add,Nat.mul_one]
    omega
  | cons c r hn ih =>
    rw [replaceAux_cons_of_not new hn,occurrences_cons_of_not hn]
    simp only [length_cons]
    omega

lemma occurrences_drop (hold : old ≠ []) (s : List Char) : (∀ k, occurrences old 0 (s.drop k) ≤ occurrences old 0 s) ∧
      ∀ k ≤ old.length, occurrences old 0 s ≤ occurrences old 0 (s.drop k)+1 := by
  have hp : 0 < old.length := length_pos_of_ne_nil hold
  induction hn : s.length using Nat.strongRecOn generalizing s with
  | ind n ih =>
    cases s with
    | nil => simp
    | cons c s =>
      have hs := ih s.length (by simp at hn; omega) s rfl
      suffices h : ∀ k, occurrences old 0 (s.drop k) ≤ occurrences old 0 (c::s) ∧
          (k < old.length → occurrences old 0 (c::s) ≤ occurrences old 0 (s.drop k)+1) by
        constructor
        · rintro (_ | k)
          · exact Nat.le_refl _
          · exact (h k).1
        · rintro (_ | k) hk
          · exact Nat.le_succ _
          · exact (h k).2 hk
      intro k
      have h₁ := hs.1 k
      rw [occurrences]
      split
      · have h₂ := hs.2 (old.length - 1) (by omega)
        rw [occurrences_skip old (old.length - 1) s]
        refine ⟨by omega,fun hk => ?_⟩
        have hl : (s.drop k).length ≤ s.length := by simp
        have h := (ih (s.drop k).length (by simp at hn; omega) (s.drop k) rfl).1 (old.length - 1 - k)
        rw [drop_drop,Nat.add_sub_cancel' (by omega)] at h
        omega
      · exact ⟨h₁,fun hk => hs.2 k (Nat.le_of_lt hk)⟩

lemma occurrences_le_append (hold : old ≠ []) (u s : List Char) : occurrences old 0 s ≤ occurrences old 0 (u ++ s) := by
  have h := (occurrences_drop hold (u ++ s)).1 u.length
  rwa [drop_left] at h

lemma replaceAux_self (hold : old ≠ []) (s : List Char) : replaceAux old old 0 s = s := by
  induction s using occurrence_induction hold with
  | nil => rfl
  | append r ih => rw [replaceAux_append old r hold,ih]
  | cons c r hn ih => rw [replaceAux_cons_of_not old hn,ih]

lemma replaceAux_eq_self_of_short (new : List Char) (h : s.length < old.length) : replaceAux old new 0 s = s := by
  induction s with
  | nil => rfl
  | cons c s ih =>
    have hn : ¬ old <+: c :: s := fun hp => by
      have := hp.length_le
      omega
    simp only [length_cons] at h
    rw [replaceAux_cons_of_not new hn,ih (by omega)]

lemma length_eq_of_replaceAux {a u y : List Char} (hold : old ≠ []) (ha : a.length = old.length+u.length)
    (h : new ++ replaceAux old new 0 (u ++ y) = a ++ replaceAux old new 0 y) : new.length = old.length := by
  obtain ⟨d,hd⟩ := Nat.exists_eq_add_of_le (occurrences_le_append hold u y)
  have h₁ := length_replaceAux new hold (u ++ y)
  have h₂ := length_replaceAux new hold y
  have hl := congrArg List.length h
  simp only [length_append,ha,hd,Nat.mul_add] at h₁ hl
  have hm : new.length*(d+1) = old.length*(d+1) := by
    simp only [Nat.mul_add,Nat.mul_one]
    omega
  exact Nat.eq_of_mul_eq_mul_right (Nat.succ_pos d) hm

lemma replaceAux_keeps_iff (hold : old ≠ []) (x t y : List Char) : replaceAux old new 0 (x ++ (old ++ t) ++ y) =
      replaceAux old new 0 x ++ (old ++ t) ++ replaceAux old new 0 y ↔ new = old := by
  refine ⟨fun h => ?_,fun h => by subst h; simp only [replaceAux_self hold]⟩
  have hp : 0 < old.length := length_pos_of_ne_nil hold
  induction hn : x.length using Nat.strongRecOn generalizing x with
  | ind n ih =>
    rcases prefix_cases old (x ++ (old ++ t) ++ y) with hnl | ⟨r,hr⟩ | ⟨c,r,hr,hnt⟩
    · simp [hold] at hnl
    · by_cases hl : old.length ≤ x.length
      · -- the first occurrence lies in `x`
        obtain ⟨x',rfl⟩ : old <+: x := by
          refine prefix_of_prefix_length_le ⟨r,hr.symm⟩ ⟨old ++ t ++ y,?_⟩ hl
          simp
        simp only [append_assoc,replaceAux_append new _ hold,append_cancel_left_eq] at h
        refine ih x'.length (by simp at hn; omega) x' ?_ rfl
        simpa using h
      · -- it begins in `x`, so `x` itself holds none
        obtain ⟨u,hu⟩ : old <+: x ++ old := by
          refine prefix_of_prefix_length_le ⟨r,hr.symm⟩ ⟨t ++ y,by simp⟩ ?_
          simp
        have hul : u.length = x.length := by
          have := congrArg List.length hu
          simp only [length_append] at this
          omega
        have hw : x ++ (old ++ t) ++ y = old ++ ((u ++ t) ++ y) := by
          rw [← append_assoc x old t,← hu]
          simp
        rw [hw,replaceAux_append new _ hold,replaceAux_eq_self_of_short new (Nat.lt_of_not_le hl),
          ← append_assoc x old t,← hu] at h
        have hln := length_eq_of_replaceAux hold (by simp) h
        rw [append_assoc old u t,append_assoc old] at h
        exact append_inj_left h hln
    · cases x with
      | nil => exact absurd ⟨t ++ y,by simpa using hr⟩ hnt
      | cons d x =>
        simp only [cons_append,List.cons.injEq] at hr
        obtain ⟨rfl,rfl⟩ := hr
        have hx : ¬ old <+: d :: x := fun hpr => hnt (hpr.trans ⟨(old ++ t) ++ y,by simp⟩)
        simp only [cons_append] at h
        rw [replaceAux_cons_of_not new hnt,replaceAux_cons_of_not new hx] at h
        exact ih x.length (by simp at hn; omega) x (List.cons.inj h).2 rfl

lemma toList_strip (s : String) : (strip s).toList = (s.toList.dropWhile isBlank).rdropWhile isBlank :=
  String.toList_ofList

lemma strip_parts (s : String) : ∃ a b, s.toList = a ++ (strip s).toList ++ b ∧
    (∀ c ∈ a, isBlank c) ∧ ∀ c ∈ b, isBlank c := by
  refine ⟨s.toList.takeWhile isBlank,(s.toList.dropWhile isBlank).rtakeWhile isBlank,?_,?_,?_⟩
  · rw [toList_strip,append_assoc,rdropWhile_append_rtakeWhile,takeWhile_append_dropWhile]
  · exact fun c hc => mem_takeWhile_imp hc
  · exact fun c hc => mem_rtakeWhile_imp hc

lemma dropWhile_rdropWhile (p : Char → Bool) (l : List Char) :
    ((l.dropWhile p).rdropWhile p).dropWhile p = (l.dropWhile p).rdropWhile p := by
  obtain ⟨r,hr⟩ := rdropWhile_prefix p (l.dropWhile p)
  cases hl : (l.dropWhile p).rdropWhile p with
  | nil => rfl
  | cons c m =>
    have hi := dropWhile_idempotent p l
    rw [← hr,hl,dropWhile_eq_self_iff] at hi
    simpa using hi (by simp)

lemma strip_strip (s : String) : strip (strip s) = strip s := by
  apply String.ext
  rw [toList_strip,toList_strip,dropWhile_rdropWhile,rdropWhile_idempotent]

end InfraAudit.Text
