import InfraAudit.Proofs.Text.Occurrences
import Mathlib

namespace InfraAudit.Text

open List

def Undotted (s : String) : Prop := '.' ∉ s.toList

lemma splitAux_eq (c : Char) (acc s : List Char) : splitAux [c] 0 acc s = s.splitOnPPrepend (· == c) acc := by
  induction s generalizing acc with
  | nil => rfl
  | cons d s ih =>
    rw [splitAux,splitOnPPrepend]
    by_cases h : d = c
    · simp [h,isPrefixOf,ih]
    · simp [h,Ne.symm h,isPrefixOf,ih]

lemma split_eq (s : String) : split s "." = (s.toList.splitOn '.').map String.ofList :=
  congrArg (map String.ofList) (splitAux_eq '.' [] s.toList)

lemma toList_join (ps : List String) : (join "." ps).toList = ['.'].intercalate (ps.map String.toList) :=
  String.toList_intercalate

@[simp] lemma join_split (s : String) : join "." (split s ".") = s := by
  apply String.ext
  rw [toList_join,split_eq,map_map]
  have hid : (s.toList.splitOn '.').map (String.toList ∘ String.ofList) = s.toList.splitOn '.' := by simp
  rw [hid,intercalate_splitOn]

lemma split_join (hne : ps ≠ []) (h : ∀ p ∈ ps, Undotted p) : split (join "." ps) "." = ps := by
  have hp : ∀ l ∈ ps.map String.toList, '.' ∉ l := by simpa [Undotted] using h
  rw [split_eq,toList_join,splitOn_intercalate '.' hp (by simpa using hne),map_map]
  simp

lemma split_ne_nil (s : String) : split s "." ≠ [] := by
  rw [split_eq]
  simp [splitOn,splitOnP_ne_nil]

lemma not_mem_of_mem_splitOn {s l : List Char} (h : l ∈ s.splitOn '.') : '.' ∉ l := by
  by_cases hs : '.' ∈ s
  · obtain ⟨a,b,rfl,ha⟩ := eq_append_cons_of_mem hs
    rw [splitOn_append_cons_self_of_not_mem ha] at h
    rcases mem_cons.1 h with rfl | h
    · exact ha
    · exact not_mem_of_mem_splitOn h
  · rw [splitOn_eq_singleton hs] at h
    rwa [mem_singleton.1 h]
termination_by s.length
decreasing_by grind

lemma undotted_of_mem_split (h : p ∈ split s ".") : Undotted p := by
  rw [split_eq,mem_map] at h
  obtain ⟨l,hl,rfl⟩ := h
  rw [Undotted,String.toList_ofList]
  exact not_mem_of_mem_splitOn hl

lemma split_of_undotted (h : Undotted s) : split s "." = [s] := by
  rw [split_eq,splitOn_eq_singleton h,map_singleton,String.ofList_toList]

lemma join_append (hps : ps ≠ []) (hqs : qs ≠ []) : join "." (ps ++ qs) = join "." ps ++ "." ++ join "." qs := by
  induction ps with
  | nil => exact absurd rfl hps
  | cons p ps ih =>
    cases ps with
    | nil =>
      obtain ⟨q,qs,rfl⟩ := exists_cons_of_ne_nil hqs
      simp [join,String.intercalate_cons_cons]
    | cons p' ps =>
      have hr := ih (by simp)
      simp only [join,cons_append,String.intercalate_cons_cons] at hr ⊢
      simp [hr,String.append_assoc]

lemma split_dotted (s t : String) : split (s ++ "." ++ t) "." = split s "." ++ split t "." := by
  rw [split_eq,split_eq,split_eq,← map_append,← splitOn_append_cons_self]
  simp

lemma startsWith_dot_iff : startsWith s (t ++ ".") ↔ ∃ ps, ps ≠ [] ∧ split s "." = split t "." ++ ps := by
  rw [startsWith, isPrefixOf_iff_prefix]
  constructor
  · rintro ⟨r,hr⟩
    refine ⟨split (String.ofList r) ".",split_ne_nil _,?_⟩
    rw [← split_dotted]
    exact congrArg (split · ".") (String.ext (by simp [← hr]))
  · rintro ⟨ps,hps,hs⟩
    refine ⟨(join "." ps).toList,?_⟩
    rw [← String.toList_append,← join_split s,hs,join_append (split_ne_nil t) hps,join_split]

lemma undotted_iff : Undotted s ↔ (split s ".").length = 1 := by
  constructor
  · intro h
    rw [split_of_undotted h,length_singleton]
  · intro h
    obtain ⟨p,hp⟩ := length_eq_one_iff.1 h
    have hs : s = p := by
      rw [← join_split s,hp]
      rfl
    rw [hs]
    exact undotted_of_mem_split (s := s) (by simp [hp])

lemma contains_dot_iff : contains s "." ↔ 1 < (split s ".").length := by
  have hm : contains s "." ↔ ¬ Undotted s :=
    contains_iff.trans ((singleton_infix_iff '.' s.toList).trans Decidable.not_not.symm)
  have hp := length_pos_iff.2 (split_ne_nil s)
  rw [hm,undotted_iff]
  omega

end InfraAudit.Text
