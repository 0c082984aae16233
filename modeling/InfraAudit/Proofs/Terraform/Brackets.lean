import Mathlib
import InfraAudit.Terraform.Evaluation

/-!
Pairs of brackets in a text, whether or not its other brackets have partners. What a scan still finds is said of the rest of
the text alone: a bracket on the stack is closed where the rest has closed all that were opened after it.
-/

namespace InfraAudit.Terraform

open List

variable {o c x : Char} {cs : List Char} {i d : Nat}

def depth (o c : Char) (cs : List Char) : Int := cs.count o - cs.count c

/-- Closes so many brackets that were open before, and at no point more. -/
def Closes (o c : Char) (d : Nat) (cs : List Char) : Prop := depth o c cs = -d ∧ ∀ p ∈ cs.inits, -d ≤ depth o c p

abbrev Balanced (o c : Char) : List Char → Prop := Closes o c 0

instance : Decidable (Closes o c d cs) := inferInstanceAs (Decidable (_ ∧ _))

/-- The text strictly between two positions. -/
def textBetween (cs : List Char) (a b : Nat) : List Char := (cs.take b).drop (a+1)

lemma closes_nil : Closes o c d [] ↔ d = 0 := by simp [Closes,depth]

lemma closes_cons : Closes o c d (x::cs) ↔ depth o c (x::cs) = -d ∧ ∀ p ∈ cs.inits, -d ≤ depth o c (x::p) := by
  simp [Closes,depth]

lemma depth_cons : depth o c (x::cs) = depth o c cs+(if x = o then 1 else 0) - if x = c then 1 else 0 := by
  simp only [depth,count_cons,beq_iff_eq]
  split <;> split <;> push_cast <;> omega

lemma closes_cons_other (ho : x ≠ o) (hc : x ≠ c) : Closes o c d (x::cs) ↔ Closes o c d cs := by
  rw [closes_cons,Closes]
  simp [depth_cons,ho,hc]

lemma exists_stacked {P : Nat → Prop} {a : Nat} :
    (∃ d, (i::st)[d]? = some a ∧ P d) ↔ a = i ∧ P 0 ∨ ∃ d, st[d]? = some a ∧ P (d+1) := by
  rw [← Nat.or_exists_add_one]
  simp [eq_comm]

section

variable (hne : o ≠ c)

include hne

lemma closes_cons_opening : Closes o c d (o::cs) ↔ Closes o c (d+1) cs := by
  rw [closes_cons,Closes]
  simp only [depth_cons,if_true,if_neg hne]
  exact and_congr (by omega) (forall₂_congr fun p _ => by omega)

lemma closes_cons_closing : Closes o c d (c::cs) ↔ ∃ e, d = e+1 ∧ Closes o c e cs := by
  rw [closes_cons]
  simp only [depth_cons,if_true,if_neg hne.symm]
  constructor
  · rintro ⟨hd,hp⟩
    have hz := hp [] (by simp)
    simp only [depth,count_nil] at hz
    exact ⟨d - 1,by omega,by omega,fun p hm => by have := hp p hm; omega⟩
  · rintro ⟨e,rfl,hd,hp⟩
    exact ⟨by omega,fun p hm => by have := hp p hm; omega⟩

lemma mem_closedPairs : p ∈ closedPairs o c i st cs ↔ ∃ m, p.stop = i+m ∧ cs[m]? = some c ∧
    ((∃ d, st[d]? = some p.start ∧ Closes o c d (cs.take m)) ∨
      ∃ k < m, p.start = i+k ∧ cs[k]? = some o ∧ Balanced o c (textBetween cs k m)) := by
  induction cs generalizing i st with
  | nil => simp [closedPairs]
  | cons x cs ih =>
    -- The first character closes a pair, opens one, or both ends stand in the rest.
    rw [← Nat.or_exists_add_one]
    simp only [← Nat.or_exists_add_one (p := fun k => k < _ ∧ _)]
    by_cases ho : x = o
    · subst ho
      simp [closedPairs,hne,ih,exists_stacked,closes_cons_opening hne,textBetween,Nat.add_assoc,Nat.add_comm 1,or_assoc,
        or_left_comm]
    · by_cases hc : x = c
      · subst hc
        obtain ⟨a,b⟩ := p
        cases st with
        | nil => simp [closedPairs,ho,ih,textBetween,Nat.add_assoc,Nat.add_comm 1]
        | cons j st =>
          simp [closedPairs,ho,ih,closes_cons_closing hne,closes_nil,textBetween,Nat.add_assoc,Nat.add_comm 1,and_comm,
            @eq_comm _ j]
      · simp [closedPairs,ho,hc,ih,closes_cons_other,textBetween,Nat.add_assoc,Nat.add_comm 1]

lemma nodup_closedPairs (st : List Nat) (cs : List Char) (i : Nat) : (closedPairs o c i st cs).Nodup := by
  fun_induction closedPairs o c i st cs with
  | case1 => exact nodup_nil
  | case2 _ _ _ _ _ ih | case4 _ _ _ _ _ ih | case5 _ _ _ _ _ _ ih => exact ih
  | case3 i x cs _ _ j st ih =>
    refine nodup_cons.2 ⟨fun hm => ?_,ih⟩
    obtain ⟨m,hs,-⟩ := (mem_closedPairs hne).1 hm
    have hs : i = i+1+m := hs
    omega

end

/-- An opening bracket and a later closing one, with balanced text between them. -/
structure Paired (o c : Char) (cs : List Char) (p : BracketPair) : Prop where
  order : p.start < p.stop
  start : cs[p.start]? = some o
  stop : cs[p.stop]? = some c
  inner : Balanced o c (textBetween cs p.start p.stop)

lemma depth_between (h : a < b) : depth o c (cs.take b) = depth o c (cs.take (a+1))+depth o c (textBetween cs a b) := by
  have hs : cs.take b = cs.take (a+1) ++ textBetween cs a b := by
    have ht := take_append_drop (a+1) (cs.take b)
    rwa [take_take,Nat.min_eq_left h,eq_comm] at ht
  simp only [hs,depth,count_append]
  omega

lemma depth_succ (hx : cs[k]? = some x) :
    depth o c (cs.take (k+1)) = depth o c (cs.take k)+(if x = o then 1 else 0) - if x = c then 1 else 0 := by
  simp only [take_add_one,hx,depth,count_append,Option.toList_some,count_singleton,beq_iff_eq]
  split <;> split <;> push_cast <;> omega

namespace Paired

lemma depth_le (h : Paired o c cs p) (hs : p.start < k) (hk : k ≤ p.stop) :
    depth o c (cs.take (p.start+1)) ≤ depth o c (cs.take k) := by
  have hp : textBetween cs p.start k ∈ (textBetween cs p.start p.stop).inits := by
    rw [mem_inits]
    exact (take_prefix_take_left hk).drop _
  have hin := h.inner.2 _ hp
  rw [depth_between hs]
  omega

lemma depth_stop (h : Paired o c cs p) : depth o c (cs.take p.stop) = depth o c (cs.take (p.start+1)) := by
  rw [depth_between h.order,h.inner.1]
  omega

variable (hne : o ≠ c) (hp : Paired o c cs p) (hq : Paired o c cs q)

include hne hp hq

lemma stop_le (h : p.start = q.start) : q.stop ≤ p.stop := by
  by_contra hlt
  have hd := hq.depth_le (k := p.stop+1) (by have := hp.order; omega) (by omega)
  rw [← h,depth_succ hp.stop,hp.depth_stop,if_neg hne.symm,if_pos rfl] at hd
  omega

lemma eq_of_start_eq (h : p.start = q.start) : p = q := by
  have hs := Nat.le_antisymm (hq.stop_le hne hp h.symm) (hp.stop_le hne hq h)
  cases p
  cases q
  simp_all

/-- Else the text up to the first closing bracket would leave the second opening one open. -/
lemma disjoint_or_nested (h : p.start < q.start) : p.stop < q.start ∨ q.stop < p.stop := by
  by_contra hcon
  have hs : q.start ≠ p.stop := by
    intro heq
    have hqs := hq.start
    rw [heq,hp.stop] at hqs
    exact hne (Option.some.inj hqs).symm
  have hd := hp.depth_le (k := q.start) h (by omega)
  have hd' := hq.depth_le (k := p.stop) (by omega) (by omega)
  rw [depth_succ hq.start,hp.depth_stop,if_pos rfl,if_neg hne] at hd'
  omega

end Paired

lemma mem_bracketPairs (hne : o ≠ c) (s : String) :
    p ∈ bracketPairs s o c ↔ p.start+1 < p.stop ∧ Paired o c s.toList p := by
  rw [bracketPairs,mem_mergeSort,mem_filter,mem_closedPairs hne,decide_eq_true_iff,and_comm]
  refine and_congr_right fun _ => ⟨?_,fun h => ⟨p.stop,by simp,h.stop,.inr ⟨p.start,h.order,by simp,h.start,h.inner⟩⟩⟩
  rintro ⟨m,hm,hc,⟨d,hd,-⟩ | ⟨k,hk,hs,ho,hb⟩⟩
  · cases hd
  · obtain ⟨a,b⟩ := p
    obtain rfl : a = k := by simpa using hs
    obtain rfl : b = m := by simpa using hm
    exact ⟨hk,ho,hc,hb⟩

theorem bracketPairs_exact (hne : o ≠ c) (s : String) :
    (∀ a b, ⟨a,b⟩ ∈ bracketPairs s o c ↔
      a+1 < b ∧ s.toList[a]? = some o ∧ s.toList[b]? = some c ∧ Balanced o c (textBetween s.toList a b)) ∧
    (bracketPairs s o c).Pairwise fun p q => p.start < q.start ∧ (p.stop < q.start ∨ q.stop < p.stop) := by
  have hm : ∀ p, p ∈ bracketPairs s o c ↔ p.start+1 < p.stop ∧ Paired o c s.toList p := fun p => mem_bracketPairs hne s
  refine ⟨fun a b => (hm _).trans (and_congr_right fun hab => ?_),?_⟩
  · exact ⟨fun h => ⟨h.start,h.stop,h.inner⟩,fun ⟨hs,hc,hb⟩ => ⟨Nat.lt_of_succ_lt hab,hs,hc,hb⟩⟩
  · have hnd : (bracketPairs s o c).Nodup := (mergeSort_perm _ _).nodup_iff.2 ((nodup_closedPairs hne [] _ 0).filter _)
    have hs : (bracketPairs s o c).Pairwise fun p q => (decide (p.start ≤ q.start) : Bool) :=
      pairwise_mergeSort (by simpa using fun _ _ _ => Nat.le_trans) (by simpa using fun _ _ => Nat.le_total _ _) _
    refine (hnd.and hs).imp_of_mem fun {p q} hp hq ⟨hpq,hle⟩ => ?_
    have hp := ((hm p).1 hp).2
    have hq := ((hm q).1 hq).2
    have hlt := lt_of_le_of_ne (of_decide_eq_true hle) fun heq => hpq (hp.eq_of_start_eq hne hq heq)
    exact ⟨hlt,hp.disjoint_or_nested hne hq hlt⟩

theorem bracketPairs_exact_unclosed :
    '[' ≠ ']' ∧ ⟨2,9⟩ ∈ bracketPairs "][[a[][b]][" '[' ']' ∧ ⟨1,9⟩ ∉ bracketPairs "][[a[][b]][" '[' ']' := by
  have h := (bracketPairs_exact (by decide : '[' ≠ ']') "][[a[][b]][").1
  exact ⟨by decide,(h 2 9).2 (by decide +kernel),mt (h 1 9).1 (by decide +kernel)⟩

end InfraAudit.Terraform
