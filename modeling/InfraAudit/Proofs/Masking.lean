import InfraAudit.Proofs.Text.Occurrences
import InfraAudit.Secrets
import Mathlib

/-!
Masking. Each secret is masked once, where it stands first. What is masked can only turn into stars, so a secret without
stars is gone from a line, unless the line had it at two places apart.
-/

namespace InfraAudit.Secrets

open List Text

/-- The same text, with some characters turned into stars. -/
def Starred : List Char → List Char → Prop := List.Forall₂ fun c d => d = c ∨ d = '*'

/-- The text stands at `n` places that do not overlap. -/
def Apart (s : List Char) : Nat → List Char → Prop
  | 0,_ => True
  | n+1,l => ∃ x y, l = x ++ s ++ y ∧ Apart s n y

/-- What a secret is replaced by: a fourth of it stays. -/
def cover (s : List Char) : List Char := s.take (s.length / 4) ++ List.replicate (s.length - s.length / 4) '*'

variable {secret line : String}

lemma Starred.refl (l : List Char) : Starred l l := forall₂_same.2 fun _ _ => .inl rfl

lemma Starred.trans (h : Starred l l') (h' : Starred l' l'') : Starred l l'' := by
  induction h generalizing l'' with
  | nil => exact h'
  | @cons c d l l' hc _ ih =>
    cases h' with
    | cons hd ht =>
      refine .cons ?_ (ih ht)
      rcases hd with rfl | rfl
      · exact hc
      · exact .inr rfl

lemma Starred.append (h : Starred l l') (hs : Starred s x) : Starred (l ++ s) (l' ++ x) := rel_append h hs

lemma starred_replicate (l : List Char) : Starred l (List.replicate l.length '*') := by
  induction l with
  | nil => exact .nil
  | cons c l ih => exact .cons (.inr rfl) ih

lemma starred_cover (s : List Char) : Starred s (cover s) := by
  have hs := (Starred.refl (s.take (s.length / 4))).append (starred_replicate (s.drop (s.length / 4)))
  rwa [take_append_drop,length_drop] at hs

lemma starred_covered (x s y : List Char) : Starred (x ++ s ++ y) (x ++ cover s ++ y) :=
  (Starred.append (.refl x) (starred_cover s)).append (.refl y)

lemma cover_eq_concat (hs : s ≠ []) : ∃ k, cover s = k ++ ['*'] := by
  have hp := length_pos_iff.2 hs
  obtain ⟨m,hm⟩ : ∃ m, s.length - s.length / 4 = m+1 := ⟨s.length - s.length / 4 - 1,by omega⟩
  exact ⟨s.take (s.length / 4) ++ replicate m '*',by rw [cover,hm,replicate_succ',append_assoc]⟩

lemma Starred.eq_of_plain (h : Starred l s) (hs : '*' ∉ s) : l = s := by
  induction h with
  | nil => rfl
  | @cons c d l s hc _ ih =>
    rw [mem_cons,not_or] at hs
    rw [ih hs.2,hc.resolve_right (Ne.symm hs.1)]

lemma Starred.exists_append (h : Starred l (x ++ s ++ y)) (hs : '*' ∉ s) :
    ∃ x' y', l = x' ++ s ++ y' ∧ x'.length = x.length ∧ Starred y' y := by
  rw [append_assoc] at h
  have hr := forall₂_drop_append _ _ _ h
  have heq : (l.drop x.length).take s.length = s := Starred.eq_of_plain (forall₂_take_append _ _ _ hr) hs
  have hl : l.length = x.length+(s.length+y.length) := by simpa using h.length_eq
  refine ⟨l.take x.length,(l.drop x.length).drop s.length,?_,?_,forall₂_drop_append _ _ _ hr⟩
  · calc l = l.take x.length ++ ((l.drop x.length).take s.length ++ (l.drop x.length).drop s.length) := by simp
      _ = l.take x.length ++ s ++ (l.drop x.length).drop s.length := by rw [heq,append_assoc]
  · rw [length_take]
    omega

lemma Apart.of_starred (h : Apart s n l') (hl : Starred l l') (hs : '*' ∉ s) : Apart s n l := by
  induction n generalizing l l' with
  | zero => trivial
  | succ n ih =>
    obtain ⟨x,y,rfl,hy⟩ := h
    obtain ⟨x',y',rfl,-,hr⟩ := hl.exists_append hs
    exact ⟨x',y',rfl,ih hy hr⟩

lemma Apart.append_left (h : Apart s (n+1) y) (x : List Char) : Apart s (n+1) (x ++ y) := by
  obtain ⟨z,w,rfl,hw⟩ := h
  exact ⟨x ++ z,w,by simp only [append_assoc],hw⟩

lemma apart_one_iff : Apart secret.toList 1 line.toList ↔ contains line secret := by
  rw [contains_iff]
  constructor
  · rintro ⟨x,y,h,-⟩
    exact ⟨x,y,h.symm⟩
  · rintro ⟨x,y,h⟩
    exact ⟨x,y,h.symm,trivial⟩

lemma toList_mask (h : Text.find? line secret = some i) : ∃ x y, line.toList = x ++ secret.toList ++ y ∧ i = x.length ∧
      (mask secret line).toList = x ++ cover secret.toList ++ y := by
  obtain ⟨x,y,hl,hi⟩ := Text.findFrom_eq_some h
  rw [Nat.zero_add] at hi
  refine ⟨x,y,hl,hi,?_⟩
  have hs : secret.length / 4 ≤ secret.toList.length := by
    rw [String.length_toList]
    omega
  rw [mask,h]
  simp only [Text.take,Text.drop,String.toList_append,String.toList_ofList,hl,hi,cover]
  rw [append_assoc x,take_length_add_append,drop_length_add_append,take_append_of_le_length hs,
    ← String.length_toList,drop_left]
  simp

lemma starred_mask (secret line : String) : Starred line.toList (mask secret line).toList := by
  cases h : find? line secret with
  | none =>
    rw [mask,h]
    exact .refl _
  | some i =>
    obtain ⟨x,y,hl,-,hm⟩ := toList_mask h
    rw [hl,hm]
    exact starred_covered _ _ _

/-- A text that is left behind the first masking stands behind the stars: it cannot reach into them, and before them it would
have been found first. -/
lemma Apart.of_covered (hne : s ≠ []) (hp : '*' ∉ s)
    (hf : ∀ x' y', x ++ s ++ y = x' ++ s ++ y' → x.length ≤ x'.length) (h : Apart s (n+1) (x ++ cover s ++ y)) :
    Apart s (n+1) y := by
  obtain ⟨z,w,heq,hw⟩ := h
  have hs := starred_covered x s y
  rw [heq] at hs
  obtain ⟨z',w',hl,hz,-⟩ := hs.exists_append hp
  have hle := hf _ _ hl
  rw [append_assoc z] at heq
  obtain ⟨v,-,hy⟩ | ⟨v,hv,hy⟩ := append_eq_append_iff.1 heq
  · exact ⟨v,w,by rw [hy,append_assoc],hw⟩
  · rcases eq_nil_or_concat v with rfl | ⟨v',c,rfl⟩
    · exact ⟨[],w,hy.symm,hw⟩
    · -- The text would begin inside the cover, whose last star it would then have.
      obtain ⟨k,hk⟩ := cover_eq_concat hne
      rw [concat_eq_append] at hv hy
      have hst : ['*'] = [c] := by
        rw [hk,← append_assoc,← append_assoc] at hv
        exact append_inj_right' hv rfl
      have hln : (v' ++ [c]).length ≤ s.length := by
        have hv' := congrArg length hv
        rw [length_append,length_append,← (starred_cover s).length_eq] at hv'
        omega
      have hpr : v' ++ [c] <+: s := prefix_of_prefix_length_le ⟨y,hy.symm⟩ ⟨w,rfl⟩ hln
      exact absurd (hpr.subset (by simp [← cons.inj hst])) hp

lemma starred_maskAll (secrets : List String) (line : String) : Starred line.toList (maskAll secrets line).toList := by
  induction secrets generalizing line with
  | nil => exact .refl _
  | cons s secrets ih => exact (starred_mask s line).trans (ih _)

lemma apart_mask_iff (hne : secret ≠ "") (hp : '*' ∉ secret.toList) :
    Apart secret.toList (n+1) (mask secret line).toList ↔ Apart secret.toList (n+2) line.toList := by
  cases h : find? line secret with
  | none =>
    have hn : ∀ m, ¬ Apart secret.toList (m+1) line.toList := by
      rintro m ⟨x,y,hl,-⟩
      have hs := findFrom_isSome_of_append secret.toList x y 0
      rw [← hl,show findFrom secret.toList 0 line.toList = none from h] at hs
      cases hs
    rw [mask,h]
    exact iff_of_false (hn _) (hn _)
  | some i =>
    obtain ⟨x,y,hl,hi,hm⟩ := toList_mask h
    rw [hm,hl]
    constructor
    · intro hlf
      refine ⟨x,y,rfl,hlf.of_covered ?_ hp ?_⟩
      · simpa using hne
      · intro x' y' heq
        have hle := le_of_findFrom h (hl.trans heq)
        omega
    · rintro ⟨x',y',heq,hr⟩
      have hle := le_of_findFrom h (hl.trans heq)
      obtain ⟨z,rfl⟩ : y' <:+ y := by
        refine suffix_of_suffix_length_le ⟨_,heq.symm⟩ ⟨_,rfl⟩ ?_
        have hln := congrArg length heq
        simp only [length_append] at hln
        omega
      rw [← append_assoc]
      exact hr.append_left _

lemma Apart.of_maskAll (h : ∀ s ∈ secrets, s ≠ "" ∧ '*' ∉ s.toList) (hp : '*' ∉ secret.toList)
    (hl : Apart secret.toList (n+1) (maskAll secrets line).toList) :
    Apart secret.toList (secrets.count secret+n+1) line.toList := by
  induction secrets generalizing line with
  | nil =>
    rw [count_nil,Nat.zero_add]
    exact hl
  | cons s secrets ih =>
    rw [forall_mem_cons] at h
    have hr := ih h.2 hl
    rcases eq_or_ne s secret with rfl | hs
    · rw [count_cons_self,Nat.add_right_comm _ 1]
      exact (apart_mask_iff h.1.1 h.1.2).1 hr
    · rw [count_cons_of_ne hs]
      exact hr.of_starred (starred_mask s line) hp

lemma apart_maskAll_replicate (hne : secret ≠ "") (hp : '*' ∉ secret.toList) (m : Nat) :
    Apart secret.toList (n+1) (maskAll (List.replicate m secret) line).toList ↔
      Apart secret.toList (m+n+1) line.toList := by
  induction m generalizing line with
  | zero =>
    rw [Nat.zero_add]
    exact Iff.rfl
  | succ m ih =>
    rw [Nat.add_right_comm m 1]
    exact ih.trans (apart_mask_iff hne hp)

/-- Masking keeps the length. A secret can only be left in a line where it stands, at places apart, more often than the list
has it; and one secret, masked so many times, is left in each such line. -/
theorem masked_unless_repeated (secrets : List String) (h : ∀ s ∈ secrets, s ≠ "" ∧ '*' ∉ s.toList) (line : String) :
    (maskAll secrets line).length = line.length ∧
      (∀ s ∈ secrets, contains (maskAll secrets line) s = true → Apart s.toList (secrets.count s+1) line.toList) ∧
      ∀ s ∈ secrets, ∀ n, contains (maskAll (List.replicate n s) line) s = true ↔ Apart s.toList (n+1) line.toList := by
  refine ⟨?_,fun s hs hleft => ?_,fun s hs n => ?_⟩
  · rw [← String.length_toList,← String.length_toList]
    exact (starred_maskAll secrets line).length_eq.symm
  · exact Apart.of_maskAll h (h s hs).2 (apart_one_iff.2 hleft)
  · rw [← apart_one_iff]
    exact apart_maskAll_replicate (h s hs).1 (h s hs).2 n

/-- One of two is left. -/
theorem masked_unless_repeated_pair : ('*' ∉ "abcd".toList ∧ maskAll ["abcd"] "abcd abcd" = "a*** abcd") ∧
      (maskAll ["abcd"] "abcd abcd").length = "abcd abcd".length ∧
      contains (maskAll ["abcd"] "abcd abcd") "abcd" = true := by
  have h := masked_unless_repeated ["abcd"] (by decide) "abcd abcd"
  refine ⟨by decide,h.1,(h.2.2 "abcd" (by decide) 1).2 ⟨[],[' ','a','b','c','d'],by decide,?_⟩⟩
  exact ⟨[' '],[],by decide,trivial⟩

end InfraAudit.Secrets
