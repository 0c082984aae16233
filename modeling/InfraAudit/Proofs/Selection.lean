import InfraAudit.Proofs.Text.Dotted
import InfraAudit.Selection

namespace InfraAudit.Selection

def Names (words : List String) (p : Nat → Prop) : Prop := ∃ w ∈ words, ∃ t, Severity.read? w = some t ∧ p t.level

def Picks (words : List String) (c : CheckLabel) (fits : String → String → Bool) : Prop :=
  ∃ w ∈ words, Severity.read? w = none ∧ named c [w] fits

lemma Names.mono (hs : words ⊆ words') (h : Names words p) : Names words' p := by
  obtain ⟨w,hw,hr⟩ := h
  exact ⟨w,hs hw,hr⟩

lemma Picks.mono (hs : words ⊆ words') (h : Picks words c fits) : Picks words' c fits := by
  obtain ⟨w,hw,hf⟩ := h
  exact ⟨w,hs hw,hf⟩

lemma picks_iff : named c (plainWords words) fits ↔ Picks words c fits := by simp [named,plainWords,Picks]

section

variable (beyond : Nat → Nat → Bool) (p : Nat → Prop) (hout : ∀ a b, beyond a b = true → p b → p a)
  (hin : ∀ a b, beyond a b = false → p a → p b)

include hout hin

lemma further_iff (found : Option Severity) (word : String) : (∃ t, further beyond found word = some t ∧ p t.level) ↔
    (∃ t, found = some t ∧ p t.level) ∨ ∃ t, Severity.read? word = some t ∧ p t.level := by
  unfold further
  cases Severity.read? word with
  | none => simp
  | some s =>
    cases found with
    | none => simp
    | some t =>
      by_cases hf : beyond s.level t.level
      · simpa [hf] using hout _ _ hf
      · simpa [hf] using hin _ _ (by simpa using hf)

lemma exists_furthest_iff (words : List String) : (∃ t, furthest beyond words = some t ∧ p t.level) ↔ Names words p := by
  -- The fold may have found a severity before.
  suffices hf : ∀ found, (∃ t, words.foldl (further beyond) found = some t ∧ p t.level) ↔
      (∃ t, found = some t ∧ p t.level) ∨ Names words p by
    simpa [furthest] using hf none
  induction words with
  | nil => simp [Names]
  | cons w words ih =>
    intro found
    rw [List.foldl_cons,ih,further_iff beyond p hout hin,or_assoc]
    simp [Names]

end

lemma reaches_lowest : reaches severity (lowest words) ↔ ∃ s, severity = some s ∧ Names words (· ≤ s.level) := by
  cases severity with
  | none => simp [reaches]
  | some s =>
    have ha := exists_furthest_iff (· < ·) (· ≤ s.level) (by simp; omega) (by simp; omega) words
    simp only [Option.some.injEq,exists_eq_left',← ha]
    cases hl : lowest words <;> simp_all [reaches,lowest]

lemma staysUnder_highest :
    staysUnder severity (highest words) ↔ ∃ s, severity = some s ∧ Names words (s.level ≤ ·) := by
  cases severity with
  | none => simp [staysUnder]
  | some s =>
    have ha := exists_furthest_iff (· > ·) (s.level ≤ ·) (by simp; omega) (by simp; omega) words
    simp only [Option.some.injEq,exists_eq_left',← ha]
    cases hh : highest words <;> simp_all [staysUnder,highest]

lemma eq_nil_iff : words = [] ↔ plainWords words = [] ∧ furthest beyond words = none := by
  have ha := exists_furthest_iff beyond (fun _ => True) (by simp) (by simp) words
  simp only [and_true] at ha
  rw [← Option.not_isSome_iff_eq_none,Option.isSome_iff_exists,ha]
  cases words with
  | nil => simp [plainWords,Names]
  | cons w words =>
    cases hr : Severity.read? w <;> simp [plainWords,Names,hr]

lemma commaList_eq (h : ∀ w ∈ words, ',' ∉ w.toList) : commaList words = words := by
  unfold commaList
  split
  · next s =>
    have hs : Text.split s "," = (s.toList.splitOn ',').map String.ofList :=
      congrArg (List.map String.ofList) (Text.splitAux_eq ',' [] s.toList)
    rw [hs,List.splitOn_eq_singleton (h s (by simp))]
    simp
  · rfl

variable {sel : Selection}

lemma asksFor_withWords : (sel.withWords run skip).asksFor c ↔
    (∃ s, c.severity = some s ∧ Names run (· ≤ s.level)) ∨ Picks run c Text.globMatches ∨ run = [] ∨
      (sel.isExternal c.id ∧ sel.allExternal) := by
  have he : run = [] ↔ plainWords run = [] ∧ lowest run = none := eq_nil_iff
  simp [asksFor,withWords,isExternal,reaches_lowest,picks_iff,he,or_assoc]

lemma skips_withWords : (sel.withWords run skip).skips c ↔
    (∃ s, c.severity = some s ∧ Names skip (s.level ≤ ·)) ∨ Picks skip c Text.globMatches ∨
      ((c.platformId.getD "").isEmpty ∧ sel.includeUnlisted = false ∧ sel.isExternal c.id = false ∧
        ¬ Picks run c Text.globMatches) := by
  simp [skips,withWords,isExternal,staysUnder_highest,← picks_iff,or_assoc,and_assoc]

lemma runs_mono (hrn : run' ⊆ run) (hne : run' = [] → run = []) (hsk : skip ⊆ skip')
    (h : (sel.withWords run' skip').runs c) : (sel.withWords run skip).runs c := by
  simp only [runs,Bool.and_eq_true,Bool.not_eq_true',Bool.eq_false_iff,ne_eq,asksFor_withWords,skips_withWords] at h ⊢
  obtain ⟨⟨ha,hp⟩,hsp⟩ := h
  refine ⟨⟨?_,hp⟩,fun hnw => hsp ?_⟩
  · rcases ha with ⟨s,hs,hn⟩ | hpc | hnl | he
    · exact .inl ⟨s,hs,hn.mono hrn⟩
    · exact .inr (.inl (hpc.mono hrn))
    · exact .inr (.inr (.inl (hne hnl)))
    · exact .inr (.inr (.inr he))
  · rcases hnw with ⟨s,hs,hn⟩ | hpc | ⟨hid,hu,he,hr⟩
    · exact .inl ⟨s,hs,hn.mono hsk⟩
    · exact .inr (.inl (hpc.mono hsk))
    · exact .inr (.inr ⟨hid,hu,he,fun hpc => hr (hpc.mono hrn)⟩)

def withEntries (sel : Selection) (run skip : List String) : Selection := sel.withWords (commaList run) (commaList skip)

/-- Which checks run depends on the entries without regard to order and repetitions. A further entry to skip starts no
check, an entry to skip stops each check that it fits or whose severity it reaches, and an entry to run stops none
unless it is the only one. -/
theorem runs_follows_entries (sel : Selection) (c : CheckLabel) {run skip : List String}
    (hrun : ∀ w ∈ run, ',' ∉ w.toList) (hskip : ∀ w ∈ skip, ',' ∉ w.toList) :
    (∀ run' skip' : List String, (∀ w, w ∈ run' ↔ w ∈ run) → (∀ w, w ∈ skip' ↔ w ∈ skip) →
      (sel.withEntries run' skip').runs c = (sel.withEntries run skip).runs c) ∧
    (∀ w : String, ',' ∉ w.toList → (sel.withEntries run (w::skip)).runs c = true →
      (sel.withEntries run skip).runs c = true) ∧
    (((∃ s, c.severity = some s ∧ Names skip (s.level ≤ ·)) ∨ Picks skip c Text.globMatches) →
      (sel.withEntries run skip).runs c = false) ∧
    (∀ run' : List String, run' ⊆ run → run' ≠ [] → (sel.withEntries run' skip).runs c = true →
      (sel.withEntries run skip).runs c = true) := by
  have hwords : ∀ {r s : List String}, (∀ w ∈ r, ',' ∉ w.toList) → (∀ w ∈ s, ',' ∉ w.toList) →
      sel.withEntries r s = sel.withWords r s := fun hr hs => by
    rw [withEntries,commaList_eq hr,commaList_eq hs]
  rw [hwords hrun hskip]
  refine ⟨fun run' skip' hr hs => ?_,fun w hw => ?_,fun h => ?_,fun run' hsub hne => ?_⟩
  · rw [hwords (fun w hw => hrun w ((hr w).1 hw)) fun w hw => hskip w ((hs w).1 hw),Bool.eq_iff_iff]
    have hnil : run' = [] ↔ run = [] := by simp only [List.eq_nil_iff_forall_not_mem,hr]
    exact ⟨runs_mono (fun w => (hr w).1) hnil.1 fun w => (hs w).2,runs_mono (fun w => (hr w).2) hnil.2 fun w => (hs w).1⟩
  · rw [hwords hrun (List.forall_mem_cons.2 ⟨hw,hskip⟩)]
    exact runs_mono (List.Subset.refl run) id (List.subset_cons_self w skip)
  · have hskips : (sel.withWords run skip).skips c = true := skips_withWords.2 (h.imp_right .inl)
    simp [runs,hskips]
  · rw [hwords (fun w hw => hrun w (hsub hw)) hskip]
    exact runs_mono hsub (absurd · hne) (List.Subset.refl skip)

/-- A check that runs however the entries are written, and that stops where its severity is skipped. -/
theorem runs_follows_entries_bucket :
    (({} : Selection).withEntries ["medium","CKV_AWS_*","medium"] ["low"]).runs ⟨"CKV_AWS_20",none,some .high⟩ =
        (({} : Selection).withEntries ["CKV_AWS_*","medium"] ["low"]).runs ⟨"CKV_AWS_20",none,some .high⟩ ∧
      (({} : Selection).withEntries ["CKV_AWS_20"] ["Low","Critical"]).runs ⟨"CKV_AWS_20",none,some .high⟩ = false :=
  ⟨(runs_follows_entries {} _ (by decide) (by decide)).1 _ _ (by simp) (by simp),
    (runs_follows_entries {} _ (by decide) (by decide)).2.2.1
      (.inl ⟨.high,rfl,"Critical",by simp,.critical,by decide +kernel,by decide⟩)⟩

end InfraAudit.Selection
