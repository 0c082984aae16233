import InfraAudit.Proofs.Selection
import InfraAudit.Proofs.Success
import InfraAudit.Report.Enrichment

namespace InfraAudit

open List Selection Record

open Selection (Names Picks)

namespace ExitRules

variable {e : ExitRules} {r : Record}

lemma failsNamed_iff : e.failsNamed r ↔ Picks e.hardWords ⟨r.checkId,r.platformId,none⟩ e.fits ∨
    (¬ Picks e.softWords ⟨r.checkId,r.platformId,none⟩ e.fits ∧
      ((∃ s, r.severity = some s ∧ Names e.hardWords (· ≤ s.level)) ∨
        (¬ (∃ s, r.severity = some s ∧ Names e.softWords (s.level ≤ ·)) ∧ e.softWords ≠ [] ∧ e.soft = false))) := by
  have he : (e.softChecks.isEmpty && e.softUpTo.isNone) = e.softWords.isEmpty := by
    rw [Bool.eq_iff_iff]
    simp only [Bool.and_eq_true,List.isEmpty_iff,Option.isNone_iff_eq_none]
    exact eq_nil_iff.symm
  rw [← reaches_lowest,← staysUnder_highest,← picks_iff,← picks_iff]
  simp only [failsNamed,he]
  simp only [softChecks,hardChecks,softUpTo,hardFrom,Bool.or_eq_true,Bool.and_eq_true,Bool.not_eq_true',
    Bool.not_eq_true,isEmpty_eq_false_iff,ne_eq]
  tauto

lemma perm_commaList {ws ws' : List String} (h : ws'.Perm ws) : (commaList ws').Perm (commaList ws) := by
  rcases ws with - | ⟨a,- | ⟨b,ws⟩⟩
  · rw [h.eq_nil]
  · rw [perm_singleton.1 h]
  · rcases ws' with - | ⟨a',- | ⟨b',ws'⟩⟩
    · simpa using h.length_eq
    · simpa using h.length_eq
    · exact h

lemma fails_of_perm {softOn hardOn : List String} (hsf : softOn.Perm e.softOn) (hhr : hardOn.Perm e.hardOn) :
    ({e with softOn, hardOn} : ExitRules).fails r = e.fails r := by
  have hn : ({e with softOn, hardOn} : ExitRules).namesNothing = e.namesNothing := by
    simp only [namesNothing,hsf.isEmpty_eq,hhr.isEmpty_eq]
  have hnm : ({e with softOn, hardOn} : ExitRules).failsNamed r = e.failsNamed r := by
    have hs := perm_commaList hsf
    have hh := perm_commaList hhr
    rw [Bool.eq_iff_iff,failsNamed_iff,failsNamed_iff]
    simp only [softWords,hardWords,Names,Picks,hs.mem_iff,hh.mem_iff,← length_pos_iff,hs.length_eq]
  rw [fails,fails,hn,hnm]

end ExitRules

/-- Exit codes compose: merged reports fail if one of them does, no order counts, and a further failed record mends
nothing. -/
theorem Report.exitCode_composes (rep other : Report) (e : ExitRules) :
    rep.exitCode {} = (if rep.failed = [] then 0 else 1) ∧
    (rep.merge other).exitCode e = max (rep.exitCode e) (other.exitCode e) ∧
    (∀ (rep' : Report) (softOn hardOn : List String), rep'.failed.Perm rep.failed → softOn.Perm e.softOn →
      hardOn.Perm e.hardOn → rep'.exitCode {e with softOn, hardOn} = rep.exitCode e) ∧
    ∀ r : Record, r.verdict = .failed → rep.exitCode e ≤ (rep.add r).exitCode e := by
  refine ⟨?_,?_,fun rep' softOn hardOn hfailed hsoft hhard => ?_,fun r hr => ?_⟩
  · cases hrecords : rep.failed <;> simp [exitCode,hrecords,ExitRules.fails,ExitRules.namesNothing]
  · by_cases h : rep.failed.any e.fails = true <;> by_cases h' : other.failed.any e.fails = true <;>
      simp [exitCode,merge,h,h']
  · have hfails : ({e with softOn, hardOn} : ExitRules).fails = e.fails :=
      funext fun r => ExitRules.fails_of_perm hsoft hhard
    rw [exitCode,exitCode,hfails,hfailed.any_eq]
  · by_cases h : rep.failed.any e.fails = true <;> simp [exitCode,add,hr,h]

def Report.openBucket : Record :=
  { checkId := "CKV_AWS_20", checkName := "acl", verdict := .failed, file := "/main.tf", absoluteFile := "/main.tf",
    lines := ⟨1,4⟩, resource := some "aws_s3_bucket.b", severity := some .high }

theorem Report.exitCode_composes_openBucket :
    exitCode {framework := "terraform", failed := [openBucket]} {softOn := ["CKV_AWS_2*","LOW"], hardOn := ["HIGH"]} =
        exitCode {framework := "terraform", failed := [openBucket]} {softOn := ["LOW","CKV_AWS_2*"], hardOn := ["HIGH"]} ∧
      exitCode {framework := "terraform"} {} ≤ (add {framework := "terraform"} openBucket).exitCode {} :=
  ⟨(exitCode_composes {framework := "terraform", failed := [openBucket]} {framework := "terraform"}
      {softOn := ["LOW","CKV_AWS_2*"], hardOn := ["HIGH"]}).2.2.1 _ _ _ (.refl _) (.swap _ _ _) (.refl _),
    (exitCode_composes {framework := "terraform"} {framework := "terraform"} {}).2.2.2 openBucket rfl⟩

namespace Record

/-- The suppressions that the files have for a record: those of its resource and of the module call that made it. -/
def skipsIn (r : Record) (es : Enrichments) (call : Option String) : List Suppression :=
  (r.resource.toList ++ call.toList).flatMap fun name => ((es.lookup name).map (·.skips)).getD []

/-- Some suppression for the record has the id of its check. -/
def isSuppressed (r : Record) (es : Enrichments) : Bool :=
  r.moduleCall?.toOption.any fun call => (r.skipsIn es call).any (·.id == r.checkId)

/-- The suppressions for a record whose id has the id of its check as a part. -/
def matching (r : Record) (es : Enrichments) : List Suppression :=
  (r.skipsIn es r.moduleCall?.toOption.join).filter fun s => Text.contains s.id r.checkId

/-- At most one suppression has the id of a record's check, and none has it as a part of another. -/
structure Told (r : Record) (es : Enrichments) (call : Option String) : Prop where
  whole : ∀ s ∈ r.skipsIn es call, Text.contains s.id r.checkId → s.id = r.checkId
  once : ((r.skipsIn es call).filter (·.id == r.checkId)).length ≤ 1

/-- A record without its verdict and the reason for it. -/
def unjudged (r : Record) : Record := {r with verdict := .failed, comment := none}

variable {r : Record}

lemma suppressions_eq : r.suppressions es = (r.moduleCall?).map fun _ => r.matching es := by
  cases hc : r.moduleCall? with
  | error f => simp [suppressions,hc,Except.map]
  | ok call =>
    cases hr : r.resource <;> cases call <;>
      simp [suppressions,matching,skipsIn,hc,hr,Except.map,Except.toOption]

lemma isSuppressed_iff (es : Enrichments) (hc : r.moduleCall? = .ok call) :
    r.isSuppressed es ↔ ∃ s ∈ r.skipsIn es call, s.id = r.checkId := by
  simp [isSuppressed,hc,Except.toOption]

lemma told_iff (hc : r.moduleCall? = .ok call) :
    r.Told es call ↔ (r.matching es).length = (r.isSuppressed es).toNat := by
  have hm : r.matching es = (r.skipsIn es call).filter fun s => Text.contains s.id r.checkId := by
    simp [matching,hc,Except.toOption]
  have hp : ∀ s : Suppression, s.id = r.checkId → Text.contains s.id r.checkId := by
    intro s hid
    rw [Text.contains_iff,hid]
  have hsl : ∀ s ∈ r.skipsIn es call, s.id = r.checkId → s ∈ r.matching es := by
    intro s hs hid
    rw [hm]
    exact mem_filter.2 ⟨hs,hp s hid⟩
  have hn : r.isSuppressed es = false → (r.skipsIn es call).filter (·.id == r.checkId) = [] := by
    intro hsp
    simpa [filter_eq_nil_iff,hsp] using (isSuppressed_iff es hc).not
  constructor
  · intro h
    have hsm : r.matching es = (r.skipsIn es call).filter (·.id == r.checkId) := by
      rw [hm]
      refine filter_congr fun s hs => ?_
      rw [Bool.eq_iff_iff,beq_iff_eq]
      exact ⟨h.whole s hs,hp s⟩
    cases hsp : r.isSuppressed es with
    | false =>
      rw [hsm,hn hsp]
      rfl
    | true =>
      obtain ⟨s,hs,hid⟩ := (isSuppressed_iff es hc).1 hsp
      have hps := length_pos_of_mem (hsl s hs hid)
      have hle := h.once
      rw [← hsm] at hle
      simp only [Bool.toNat_true]
      omega
  · intro h
    cases hsp : r.isSuppressed es with
    | false =>
      have hnl : r.matching es = [] := by simpa [hsp] using h
      refine ⟨fun s hs hs' => ?_,?_⟩
      · have hmm : s ∈ r.matching es := hm ▸ mem_filter.2 ⟨hs,hs'⟩
        simp [hnl] at hmm
      · simp [hn hsp]
    | true =>
      obtain ⟨s,hs,hid⟩ := (isSuppressed_iff es hc).1 hsp
      obtain ⟨x,hx⟩ := length_eq_one_iff.1 (by simpa [hsp] using h)
      have ho : ∀ t ∈ r.matching es, t = s := by
        have hsx : s = x := by simpa [hx] using hsl s hs hid
        simp [hx,hsx]
      refine ⟨fun t ht ht' => ?_,?_⟩
      · rw [ho t (hm ▸ mem_filter.2 ⟨ht,ht'⟩),hid]
      · have hsb : ((r.skipsIn es call).filter (·.id == r.checkId)).Sublist (r.matching es) := by
          rw [hm]
          exact monotone_filter_right _ fun t ht => hp t (beq_iff_eq.1 ht)
        simpa [hx] using hsb.length_le

end Record

namespace Report

variable {rep : Report}

/-- Each failed record is still there once, among the skipped ones just if a suppression has the id of its check. -/
structure Accounted (rep : Report) (es : Enrichments) (out : Report) : Prop where
  passed : out.passed = rep.passed
  failed : out.failed = rep.failed.filter fun r => !r.isSuppressed es
  skipped : (out.skipped.map unjudged).Perm
    ((rep.skipped ++ rep.failed.filter fun r => r.isSuppressed es).map unjudged)

lemma exists_applySuppressions (es : Enrichments) (h : ∀ r ∈ rep.failed, ∃ call, r.moduleCall? = .ok call) :
    ∃ out, rep.applySuppressions es = .ok out ∧ out.passed = rep.passed ∧
      out.failed = (rep.failed.filter fun r => (r.matching es).isEmpty) ∧
      out.skipped.map unjudged = rep.skipped.map unjudged ++
        rep.failed.flatMap fun r => replicate (r.matching es).length r.unjudged := by
  have hj : rep.failed.mapM (fun r => do return (r,← r.suppressions es) : Record → Result _) =
      .ok (rep.failed.map fun r => (r,r.matching es)) := by
    rw [mapM_eq_ok,forall₂_map_right_iff,forall₂_same]
    intro r hr
    obtain ⟨call,hc⟩ := h r hr
    simp [suppressions_eq,hc,Except.map]
  rw [applySuppressions,hj]
  refine ⟨_,rfl,rfl,?_,?_⟩
  · simp [filter_map,Function.comp_def]
  · simp [map_flatMap,flatMap_map,unjudged]

lemma flatMap_replicate_toNat (l : List α) (p : α → Bool) (f : α → β) :
    (l.flatMap fun a => replicate (p a).toNat (f a)) = (l.filter p).map f := by
  induction l with
  | nil => rfl
  | cons a l ih => cases h : p a <;> simp [ih,h]

lemma eq_of_sum_eq {α : Type} {l : List α} {f g : α → Nat} (hle : ∀ a ∈ l, f a ≤ g a)
    (h : (l.map f).sum = (l.map g).sum) : ∀ a ∈ l, f a = g a := by
  induction l with
  | nil => simp
  | cons a l ih =>
    rw [forall_mem_cons] at hle
    have hr : (l.map f).sum ≤ (l.map g).sum := sum_le_sum hle.2
    simp only [map_cons,sum_cons] at h
    exact forall_mem_cons.2 ⟨by omega,ih hle.2 (by omega)⟩

lemma exists_moduleCall (ho : rep.applySuppressions es = .ok out) :
    ∀ r ∈ rep.failed, ∃ call, r.moduleCall? = .ok call := by
  intro r hr
  obtain ⟨judged,hj,-⟩ := bind_eq_ok.1 ho
  obtain ⟨b,hb⟩ := exists_mapM_iff.1 ⟨judged,hj⟩ r hr
  cases hc : r.moduleCall? with
  | ok call => exact ⟨call,rfl⟩
  | error f => simp [suppressions_eq,hc,Except.map] at hb

/-- Suppressions move each record they name, once and to the skipped ones, just if each failed record's address can
be read and no id of a suppression has the id of its check as a part or stands twice. -/
theorem accounted_iff_told (rep : Report) (es : Enrichments) :
    (∃ out, rep.applySuppressions es = .ok out ∧ rep.Accounted es out) ↔
      ∀ r ∈ rep.failed, ∃ call, r.moduleCall? = .ok call ∧ r.Told es call := by
  constructor
  · rintro ⟨out,hout,hall⟩ r hr
    have hcalls := exists_moduleCall hout
    obtain ⟨out',hout',-,hfailed,hskipped⟩ := exists_applySuppressions es hcalls
    obtain rfl : out = out' := Except.ok.inj (hout.symm.trans hout')
    have hsome : ∀ r ∈ rep.failed, (r.isSuppressed es).toNat ≤ (r.matching es).length := by
      intro r hr
      cases hsup : r.isSuppressed es with
      | false => simp
      | true =>
        have hne : r ∉ out.failed := by simp [hall.failed,hsup]
        rw [hfailed,mem_filter,not_and] at hne
        simpa [Nat.one_le_iff_ne_zero] using hne hr
    have hsum : (rep.failed.map fun r => (r.isSuppressed es).toNat).sum =
        (rep.failed.map fun r => (r.matching es).length).sum := by
      have hlen := hall.skipped.length_eq
      rw [hskipped,map_append,← flatMap_replicate_toNat] at hlen
      simpa [length_flatMap] using hlen.symm
    obtain ⟨call,hcall⟩ := hcalls r hr
    exact ⟨call,hcall,(told_iff hcall).2 (eq_of_sum_eq hsome hsum r hr).symm⟩
  · intro h
    have hcalls : ∀ r ∈ rep.failed, ∃ call, r.moduleCall? = .ok call := fun r hr => (h r hr).imp fun _ => And.left
    have hlength : ∀ r ∈ rep.failed, (r.matching es).length = (r.isSuppressed es).toNat := by
      intro r hr
      obtain ⟨call,hcall,htold⟩ := h r hr
      exact (told_iff hcall).1 htold
    obtain ⟨out,hout,hpassed,hfailed,hskipped⟩ := exists_applySuppressions es hcalls
    refine ⟨out,hout,hpassed,hfailed.trans (filter_congr fun r hr => ?_),?_⟩
    · rw [Bool.eq_iff_iff,isEmpty_iff_length_eq_zero,hlength r hr]
      cases r.isSuppressed es <;> simp
    · have hmoved : (rep.failed.flatMap fun r => replicate (r.matching es).length r.unjudged) =
          (rep.failed.filter fun r => r.isSuppressed es).map unjudged := by
        rw [← flatMap_replicate_toNat]
        exact flatMap_congr fun r hr => by rw [hlength r hr]
      rw [hskipped,hmoved,map_append]

end Report

end InfraAudit
