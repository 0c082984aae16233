import InfraAudit.Template.JsonReader
import Mathlib.Order.Bounds.Basic

/-!
The index of newlines. Bisection in it counts the newlines up to a position and finds the last of them, as a walk over the text
would.
-/

namespace InfraAudit.Template

open List

variable {cs : List Char} {index : Array Nat} {pos : Int} {lo hi n i a : Nat}

lemma newlinesFrom_eq (k : Nat) (cs : List Char) :
    newlinesFrom k cs = ((cs.zipIdx k).filter (·.1 == '\n')).map Prod.snd := by
  induction cs generalizing k with
  | nil => rfl
  | cons c cs ih =>
    rw [newlinesFrom,zipIdx_cons,filter_cons,ih]
    split <;> rfl

lemma mem_newlines : i ∈ newlinesFrom 0 cs ↔ cs[i]? = some '\n' := by
  simp [newlinesFrom_eq,mem_zipIdx_iff_getElem?]

/-- Newlines up to a position come first in the index, as many as there are in the text up to it. -/
lemma newlinesFrom_le_iff (h : (newlinesFrom k cs)[i]? = some a) :
    (a : Int) ≤ pos ↔ i < (cs.take (pos+1 - k).toNat).count '\n' := by
  induction cs generalizing k i with
  | nil => cases h
  | cons c cs ih =>
    have hk : (pos+1 - (k+1 : Nat)).toNat = (pos+1 - k).toNat - 1 := by omega
    rw [newlinesFrom] at h
    split at h
    · next hc =>
      obtain rfl := eq_of_beq hc
      cases i with
      | zero =>
        obtain rfl : k = a := Option.some.inj h
        cases hm : (pos+1 - k).toNat with
        | zero => simp; omega
        | succ m => simp; omega
      | succ i =>
        rw [ih h,hk]
        cases (pos+1 - k).toNat with
        | zero => simp
        | succ m => simp
    · next hc =>
      rw [ih h,hk]
      cases (pos+1 - k).toNat with
      | zero => simp
      | succ m => rw [take_succ_cons,count_cons,if_neg hc]; rfl

/-- What lies before the first bound is up to the position and what lies from the second on is not. The count is the first bound. -/
lemma countLoop_eq (h : ∀ i < index.size, (index.getD i 0 : Int) ≤ pos ↔ i < n) (hm : m = lo) (hl : lo ≤ n) (hn : n ≤ hi)
    (hs : hi ≤ index.size) : countLoop index pos lo hi m = n := by
  fun_induction countLoop index pos lo hi m with
  | case1 lo hi m hlt mid hle ih =>
    have hmid := (h mid (by omega)).1 hle
    exact ih rfl hmid hn hs
  | case2 lo hi m hlt mid hle ih =>
    have hmid := mt (h mid (by omega)).2 hle
    exact ih hm hl (by omega) (by omega)
  | case3 lo hi m hlt => omega

lemma newlines_getElem? (h : i < (newlines cs).size) : (newlinesFrom 0 cs)[i]? = some ((newlines cs).getD i 0) := by
  simp_all [newlines]

lemma count_take_le_size (cs : List Char) (n : Nat) : (cs.take n).count '\n' ≤ (newlines cs).size := by
  have hc := congrArg (countP (· == '\n')) (zipIdx_map_fst 0 cs)
  rw [countP_map] at hc
  rw [newlines,size_toArray,newlinesFrom_eq,length_map,← countP_eq_length_filter]
  exact ((take_sublist n cs).countP_le).trans hc.ge

lemma countUpTo_newlines (cs : List Char) (pos : Int) :
    countUpTo (newlines cs) pos = (cs.take (pos+1).toNat).count '\n' := by
  refine countLoop_eq (fun i hi => ?_) rfl (Nat.zero_le _) (count_take_le_size cs _) le_rfl
  simpa using newlinesFrom_le_iff (newlines_getElem? hi)

lemma le_iff_lt_countUpTo (h : (newlinesFrom 0 cs)[i]? = some a) : (a : Int) ≤ pos ↔ i < countUpTo (newlines cs) pos := by
  rw [countUpTo_newlines]
  simpa using newlinesFrom_le_iff h

/-- It is the greatest of the newlines at or before a position, or -1. -/
def IsNewlineBefore (cs : List Char) (pos last : Int) : Prop :=
  IsGreatest (insert (-1 : Int) {p : Int | ∃ i : Nat, p = i ∧ p ≤ pos ∧ cs[i]? = some '\n'}) last

lemma isNewlineBefore_newlineBefore (cs : List Char) (pos : Int) :
    IsNewlineBefore cs pos (newlineBefore (newlines cs) (countUpTo (newlines cs) pos) pos) := by
  have hs := count_take_le_size cs (pos+1).toNat
  rw [← countUpTo_newlines] at hs
  have hfirst : ∀ i : Nat, (i : Int) ≤ pos → cs[i]? = some '\n' →
      ∃ j < countUpTo (newlines cs) pos, (newlinesFrom 0 cs)[j]? = some i := by
    intro i hle hi
    obtain ⟨j,hj⟩ := mem_iff_getElem?.1 (mem_newlines.2 hi)
    exact ⟨j,(le_iff_lt_countUpTo hj).1 hle,hj⟩
  cases hn : countUpTo (newlines cs) pos with
  | zero =>
    have hb : newlineBefore (newlines cs) (0 : Nat) pos = -1 := by simp [newlineBefore,hn]
    rw [hb]
    refine ⟨.inl rfl,?_⟩
    rintro p (rfl | ⟨i,rfl,hle,hi⟩)
    · exact le_rfl
    · obtain ⟨j,hj,-⟩ := hfirst i hle hi
      omega
  | succ m =>
    have hm : (newlinesFrom 0 cs)[m]? = some _ := newlines_getElem? (by omega)
    have hb : newlineBefore (newlines cs) (m+1 : Nat) pos = (newlines cs).getD m 0 := by
      have hne : (newlines cs).isEmpty = false := by
        rw [Array.isEmpty_eq_false_iff,← Array.size_pos_iff]
        omega
      have hl : ¬(((m+1 : Nat) : Int) - 1 < 0) := by omega
      simp only [newlineBefore,hn,hne,if_neg hl]
      simp
    rw [hb]
    refine ⟨.inr ⟨_,rfl,(le_iff_lt_countUpTo hm).2 (by omega),mem_newlines.1 (mem_of_getElem? hm)⟩,?_⟩
    rintro p (rfl | ⟨i,rfl,hle,hi⟩)
    · omega
    · obtain ⟨j,hj,hij⟩ := hfirst i hle hi
      have hlast := (le_iff_lt_countUpTo hm).1 le_rfl
      exact (le_iff_lt_countUpTo hij).2 (by omega)

theorem newlines_replace_counting (s : String) (pos : Int) :
    countUpTo (newlines s.toList) pos = (s.toList.take (pos+1).toNat).count '\n' ∧
      IsNewlineBefore s.toList pos (newlineBefore (newlines s.toList) (countUpTo (newlines s.toList) pos) pos) :=
  ⟨countUpTo_newlines s.toList pos,isNewlineBefore_newlineBefore s.toList pos⟩

end InfraAudit.Template
