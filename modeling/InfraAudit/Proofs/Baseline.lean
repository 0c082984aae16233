import InfraAudit.Proofs.Success
import InfraAudit.Report.Baseline

/-!
Baselines. A record is looked up by its resource and its check in the findings of all files at once. So a baseline hides
every record it was made of, but also records of other files that share resource and check with one of them.
-/

namespace InfraAudit.Baseline

open List Value Text

variable {b : Baseline}

def Findings.names (fs : Findings) (r : Record) : Bool := fs.any fun f => f.1 == r.resource && f.2.contains r.checkId

def names (b : Baseline) (r : Record) : Bool := b.any fun e => Findings.names e.2 r

def FindingWritten (f : Option String × List String) (v : Value) : Prop :=
  ∃ fields, v = .dict fields ∧ fields.lookup "resource" = some (.optionalText f.1) ∧
    fields.lookup "check_ids" = some (.ofStrings f.2)

def EntryWritten (e : String × Findings) (v : Value) : Prop :=
  ∃ fields vs, v = .dict fields ∧ fields.lookup "file" = some (.str e.1) ∧
    fields.lookup "findings" = some (.list vs) ∧ Forall₂ FindingWritten e.2 vs

/-- A baseline as a file gives it, in any order and with whatever else its mappings have. -/
def Written (b : Baseline) (v : Value) : Prop := ∃ vs, v = .list vs ∧ Forall₂ EntryWritten b vs

lemma optionalText_beq (s t : Option String) : (optionalText s == .optionalText t) = (s == t) := by
  show eq (optionalText s) (optionalText t) = _
  cases s with
  | none => cases t <;> simp [optionalText,eq,eqScalar,int?]
  | some s =>
    cases t with
    | none => simp [optionalText,eq,eqScalar,int?]
    | some t => exact beq_str s t

lemma FindingWritten.covers_eq (h : FindingWritten f v) (r : Record) :
    findingCovers v r = .ok (f.1 == r.resource && f.2.contains r.checkId) := by
  obtain ⟨fields,rfl,hr,hi⟩ := h
  have hh : (ofStrings f.2).has r.checkId = .ok (f.2.contains r.checkId) := by
    rw [← elem_texts]
    rfl
  simp only [findingCovers,field_of_lookup hr,field_of_lookup hi,ok_bind,optionalText_beq,hh]
  cases f.1 == r.resource <;> rfl

lemma Written.covers_eq (h : b.Written v) : covers v = fun r => .ok (b.names r) := by
  obtain ⟨vs,rfl,hvs⟩ := h
  funext r
  refine anyM_eq (Forall₂.flip (hvs.imp fun e v he => ?_))
  obtain ⟨fields,ws,rfl,-,hfn,hws⟩ := he
  rw [flip,field_of_lookup hfn]
  exact anyM_eq (Forall₂.flip (hws.imp fun f w hf => hf.covers_eq r))

def reduced (b : Baseline) (showSkipped : Bool) (rep : Report) : Report :=
  { rep with
    passed := rep.passed.filter b.names
    failed := rep.failed.filter (!b.names ·)
    skipped := rep.skipped.filter b.names ++ if showSkipped then (rep.failed.filter b.names).map hide else [] }

lemma Written.reduce_eq (h : b.Written v) (showSkipped : Bool) (rep : Report) :
    reduce v showSkipped rep = .ok (b.reduced showSkipped rep) := by
  have hn : (fun r => do return !(← covers v r) : Record → Result Bool) = fun r => .ok (!b.names r) := by
    rw [h.covers_eq]
    rfl
  rw [reduce,hn,h.covers_eq]
  simp only [filterM_ok,ok_bind]
  rfl

lemma reduced_reduced (b : Baseline) (showSkipped : Bool) (rep : Report) :
    b.reduced showSkipped (b.reduced showSkipped rep) = b.reduced showSkipped rep := by
  -- A hidden record is still named, so it stays where it was moved.
  have hh : ((rep.failed.filter b.names).map hide).filter b.names = (rep.failed.filter b.names).map hide := by
    rw [filter_eq_self]
    exact forall_mem_map.2 fun r hr => (mem_filter.1 hr).2
  cases showSkipped <;> simp [reduced,hh]

/-- A baseline hides a failed record just if the findings of some file have its resource and check. So all it hides was
recorded for the record's own file just if no failed record has its resource and check in other files alone. -/
theorem hides_recorded_iff (h : b.Written v) (showSkipped : Bool) (rep : Report) :
    ∃ out, reduce v showSkipped rep = .ok out ∧
      (∀ r ∈ rep.failed, r ∉ out.failed ↔ ∃ e ∈ b, Findings.names e.2 r = true) ∧
      ((∀ r ∈ rep.failed, r ∉ out.failed → ∃ e ∈ b, e.1 = r.file ∧ Findings.names e.2 r = true) ↔
        ∀ r ∈ rep.failed, ∀ e ∈ b, Findings.names e.2 r = true → ∃ e' ∈ b, e'.1 = r.file ∧ Findings.names e'.2 r = true) := by
  have hhidden : ∀ r ∈ rep.failed, r ∉ (b.reduced showSkipped rep).failed ↔ ∃ e ∈ b, Findings.names e.2 r = true := by
    intro r hr
    simp [reduced,names,hr]
  refine ⟨_,h.reduce_eq showSkipped rep,hhidden,?_⟩
  constructor
  · intro hown r hr e he hnames
    exact hown r hr ((hhidden r hr).2 ⟨e,he,hnames⟩)
  · intro hown r hr hgone
    obtain ⟨e,he,hnames⟩ := (hhidden r hr).1 hgone
    exact hown r hr e he hnames

def openBucket : Record where
  checkId := "CKV_AWS_18"
  checkName := ""
  verdict := .failed
  file := "/b.tf"
  absoluteFile := "/b.tf"
  lines := ⟨1,1⟩
  resource := some "aws_s3_bucket.b"

def otherFile : Baseline := [("/a.tf",[(openBucket.resource,[openBucket.checkId])])]

def otherFileValue : Value := .list (otherFile.map fun e =>
  .dict [("file",.str e.1),("findings",.list (e.2.map findingValue))])

/-- What was recorded for one file hides the same finding in another. -/
theorem hides_recorded_iff_elsewhere : otherFile.Written otherFileValue ∧ (∀ e ∈ otherFile, e.1 ≠ openBucket.file) ∧
      ∃ out, reduce otherFileValue false ⟨"terraform",[],[openBucket],[],[],[],[]⟩ = .ok out ∧ openBucket ∉ out.failed := by
  have hwritten : otherFile.Written otherFileValue := ⟨_,rfl,.cons ⟨_,_,rfl,rfl,rfl,.cons ⟨_,rfl,rfl,rfl⟩ .nil⟩ .nil⟩
  obtain ⟨out,hout,hhidden,-⟩ := hides_recorded_iff hwritten false ⟨"terraform",[],[openBucket],[],[],[],[]⟩
  exact ⟨hwritten,by decide,out,hout,(hhidden openBucket (by simp)).2 ⟨_,List.mem_cons_self,by decide⟩⟩

/-- Each file and, in it, each resource stands once and with some check. -/
structure Grouped (b : Baseline) : Prop where
  files : (b.map Prod.fst).Nodup
  resources : ∀ e ∈ b, (e.2.map Prod.fst).Nodup
  checks : ∀ e ∈ b, ∀ f ∈ e.2, f.2 ≠ []

lemma checks_addCheck (h : ∀ f ∈ fs, f.2 ≠ []) (r : Record) : ∀ f ∈ addCheck fs r, f.2 ≠ [] := by
  have ha : ∀ ids, sort (ids ++ [r.checkId]) ≠ [] := fun ids =>
    ne_nil_of_length_pos (by simp [sort])
  exact forall_mem_upsert (P := (· ≠ [])) (ha _) (fun ids _ => ha ids) h

lemma Grouped.addRecord (h : b.Grouped) (r : Record) : Grouped (addRecord b r) where
  files := nodup_upsert h.files _ _ _
  resources := forall_mem_upsert (P := fun fs : Findings => (fs.map Prod.fst).Nodup)
    (nodup_upsert (l := []) nodup_nil _ _ _) (fun _ hfs => nodup_upsert hfs _ _ _) h.resources
  checks := forall_mem_upsert (P := fun fs : Findings => ∀ f ∈ fs, f.2 ≠ [])
    (checks_addCheck (by simp) r) (fun _ hfs => checks_addCheck hfs r) h.checks

lemma grouped_ofReports (reps : List Report) : (ofReports reps).Grouped :=
  List.foldlRecOn (motive := Grouped) _ _ ⟨nodup_nil,by simp,by simp⟩ fun _ hb r _ => hb.addRecord r

def checksAt (b : Baseline) (file : String) (resource : Option String) : List String :=
  (((b.lookup file).getD []).lookup resource).getD []

lemma mem_checksAt_addRecord (b : Baseline) (r : Record) (file : String) (resource : Option String) (id : String) :
    id ∈ checksAt (addRecord b r) file resource ↔
      id ∈ b.checksAt file resource ∨ r.file = file ∧ r.resource = resource ∧ r.checkId = id := by
  by_cases hf : file = r.file
  · by_cases hr : resource = r.resource
    · simp [checksAt,addRecord,addCheck,lookup_upsert,hf,hr,sort,eq_comm]
    · simp [checksAt,addRecord,addCheck,lookup_upsert,hf,hr,Ne.symm hr]
  · simp [checksAt,addRecord,lookup_upsert,hf,Ne.symm hf]

lemma mem_checksAt_ofReports (reps : List Report) (file : String) (resource : Option String) (id : String) :
    id ∈ (ofReports reps).checksAt file resource ↔
      ∃ r ∈ reps.flatMap (·.failed), r.file = file ∧ r.resource = resource ∧ r.checkId = id := by
  have hf : ∀ (rs : List Record) (b : Baseline), id ∈ checksAt (rs.foldl addRecord b) file resource ↔
      id ∈ b.checksAt file resource ∨ ∃ r ∈ rs, r.file = file ∧ r.resource = resource ∧ r.checkId = id := by
    intro rs
    induction rs with
    | nil => simp
    | cons r rs ih =>
      intro b
      rw [foldl_cons,ih,mem_checksAt_addRecord,exists_mem_cons_iff,or_assoc]
  rw [ofReports,hf]
  simp [checksAt]

lemma exists_of_mem_checksAt {id : String} {resource : Option String} (h : id ∈ b.checksAt file resource) :
    ∃ fs ids, b.lookup file = some fs ∧ (resource,ids) ∈ fs ∧ id ∈ ids := by
  rw [checksAt] at h
  cases hfs : b.lookup file with
  | none => simp [hfs] at h
  | some fs =>
    cases hi : fs.lookup resource with
    | none => simp [hfs,hi] at h
    | some ids => exact ⟨fs,ids,rfl,mem_of_lookup hi,by simpa [hfs,hi] using h⟩

lemma names_of_mem_checksAt (h : r.checkId ∈ b.checksAt file r.resource) : b.names r = true := by
  obtain ⟨fs,ids,hfs,hi,hid⟩ := exists_of_mem_checksAt h
  exact any_eq_true.2 ⟨_,mem_of_lookup hfs,any_eq_true.2 ⟨_,hi,by simpa using hid⟩⟩

lemma Grouped.exists_mem_checksAt (h : b.Grouped) (he : (file,fs) ∈ b) (hf : f ∈ fs) : ∃ id, id ∈ b.checksAt file f.1 := by
  rw [checksAt,lookup_of_mem h.files he,Option.getD_some,lookup_of_mem (h.resources _ he) hf]
  exact exists_mem_of_ne_nil _ (h.checks _ he f hf)

/-- No file has a finding with a resource and one without: those cannot be put in order. -/
def Sortable (b : Baseline) : Prop :=
  ∀ file resource resource' id id', id ∈ b.checksAt file resource → id' ∈ b.checksAt file resource' →
    resource.isSome = resource'.isSome

lemma Grouped.sortable_iff (h : b.Grouped) : b.Sortable ↔ ∀ e ∈ b, 1 < e.2.length → ∀ f ∈ e.2, f.1.isSome = true := by
  constructor
  · rintro hs ⟨file,fs⟩ he hm f hf
    -- Else no finding of the file has a resource, and there is one at most.
    by_contra hn
    obtain ⟨id,hid⟩ := h.exists_mem_checksAt he hf
    have ha : ∀ resource ∈ fs.map Prod.fst, resource = none := by
      intro resource hmm
      obtain ⟨g,hg,rfl⟩ := mem_map.1 hmm
      obtain ⟨id',hid'⟩ := h.exists_mem_checksAt he hg
      rwa [← Option.not_isSome_iff_eq_none,← hs _ _ _ _ _ hid hid']
    have hfw := nodup_replicate.1 (eq_replicate_of_mem ha ▸ h.resources _ he)
    rw [length_map] at hfw
    exact absurd hm (Nat.not_lt.2 hfw)
  · intro hsm file resource resource' id id' hid hid'
    obtain ⟨fs,ids,hfs,hmm,-⟩ := exists_of_mem_checksAt hid
    obtain ⟨fs',ids',hfs',hmm',-⟩ := exists_of_mem_checksAt hid'
    obtain rfl : fs = fs' := Option.some.inj (hfs.symm.trans hfs')
    by_cases hsa : resource = resource'
    · rw [hsa]
    · have hb : [(resource,ids),(resource',ids')].Subperm fs :=
        subperm_of_subset (by simp [hsa]) (by simp [hmm,hmm'])
      have ha := hsm _ (mem_of_lookup hfs) hb.length_le
      rw [ha _ hmm,ha _ hmm']

lemma sortable_ofReports_iff (reps : List Report) :
    (ofReports reps).Sortable ↔ ∀ q ∈ reps.flatMap (·.failed), ∀ r ∈ reps.flatMap (·.failed),
      q.file = r.file → q.resource.isSome = r.resource.isSome := by
  simp only [Sortable,mem_checksAt_ofReports]
  constructor
  · intro h q hq r hr hf
    exact h r.file _ _ _ _ ⟨q,hq,hf,rfl,rfl⟩ ⟨r,hr,rfl,rfl,rfl⟩
  · rintro h _ _ _ _ _ ⟨q,hq,rfl,rfl,-⟩ ⟨r,hr,hf,rfl,-⟩
    exact h q hq r hr hf.symm

lemma sorted_eq_ok : sorted fs = .ok fs' ↔ (1 < fs.length → ∀ f ∈ fs, f.1.isSome) ∧
      fs' = fs.mergeSort fun f g => le (f.1.getD "") (g.1.getD "") := by
  have hm : (fs.length > 1 && fs.any (·.1.isNone)) ↔ ¬ (1 < fs.length → ∀ f ∈ fs, f.1.isSome) := by
    rw [Bool.and_eq_true,decide_eq_true_eq,any_eq_true]
    push Not
    simp
  rw [sorted]
  split
  · next h =>
    constructor
    · intro hv
      cases hv
    · exact fun hv => absurd hv.1 (hm.1 h)
  · next h => rw [Except.ok.injEq,eq_comm,and_iff_right (not_not.1 (mt hm.2 h))]

lemma Grouped.exists_toValue_iff (h : b.Grouped) : (∃ written, b.toValue = .ok written) ↔ b.Sortable := by
  have hb : ∀ {α β : Type} (x : Result α) (g : α → β), (∃ y, (do return g (← x)) = (.ok y : Result β)) ↔ ∃ a, x = .ok a := by
    intro α β x g
    cases x with
    | error e => simp
    | ok a => simp
  rw [h.sortable_iff]
  calc (∃ written, b.toValue = .ok written)
      ↔ ∃ vs, (b.mergeSort fun e f => le e.1 f.1).mapM entryValue = .ok vs := hb _ _
    _ ↔ ∀ e ∈ b.mergeSort fun e f => le e.1 f.1, ∃ v, entryValue e = .ok v := exists_mapM_iff
    _ ↔ ∀ e ∈ b, ∃ fs, sorted e.2 = .ok fs := by
      simp only [mem_mergeSort]
      exact forall₂_congr fun e _ => hb _ _
    _ ↔ _ := by simp only [sorted_eq_ok,exists_and_left,exists_eq,and_true]

lemma written_of_toValue (h : b.toValue = .ok written) :
    ∃ v b', written = .dict [("failed_checks",v)] ∧ Written b' v ∧ b'.names = b.names := by
  obtain ⟨vs,hvs,heq⟩ := bind_eq_ok.1 h
  cases heq
  let entry (e : String × Findings) : String × Findings := (e.1,e.2.mergeSort fun f g => le (f.1.getD "") (g.1.getD ""))
  refine ⟨.list vs,(b.mergeSort fun e f => le e.1 f.1).map entry,rfl,⟨vs,rfl,?_⟩,?_⟩
  · refine forall₂_map_left_iff.2 ((mapM_eq_ok.1 hvs).imp fun e v he => ?_)
    obtain ⟨fs,hfs,heq⟩ := bind_eq_ok.1 he
    cases heq
    obtain ⟨-,rfl⟩ := sorted_eq_ok.1 hfs
    refine ⟨_,_,rfl,rfl,rfl,?_⟩
    rw [forall₂_map_right_iff,forall₂_same]
    exact fun f _ => ⟨_,rfl,rfl,rfl⟩
  · funext r
    rw [names,any_map,(mergeSort_perm _ _).any_eq]
    exact congrArg b.any (funext fun e => (mergeSort_perm _ _).any_eq)

/-- The baseline of some reports can be written and, applied to them, hides every failed record once, and a second time
changes nothing, just if no file has failed records with a resource beside such without one. -/
theorem roundTrip_iff (reps : List Report) :
    (∃ written entries, (ofReports reps).toValue = .ok written ∧ entriesOf written = .ok entries ∧
      ∀ rep ∈ reps, ∀ showSkipped, ∃ out kept, reduce entries showSkipped rep = .ok out ∧ out.failed = [] ∧
        kept.Sublist rep.skipped ∧ out.skipped = kept ++ (if showSkipped then rep.failed.map hide else []) ∧
        reduce entries showSkipped out = .ok out) ↔ ∀ q ∈ reps.flatMap (·.failed), ∀ r ∈ reps.flatMap (·.failed),
        q.file = r.file → q.resource.isSome = r.resource.isSome := by
  rw [← sortable_ofReports_iff,← (grouped_ofReports reps).exists_toValue_iff]
  constructor
  · rintro ⟨written,-,hw,-⟩
    exact ⟨written,hw⟩
  · rintro ⟨written,hw⟩
    obtain ⟨v,b,rfl,hb,hn⟩ := written_of_toValue hw
    refine ⟨_,v,hw,rfl,fun rep hrp showSkipped => ?_⟩
    have ha : ∀ r ∈ rep.failed, b.names r := by
      intro r hr
      rw [hn]
      refine names_of_mem_checksAt ((mem_checksAt_ofReports reps r.file _ _).2 ⟨r,?_,rfl,rfl,rfl⟩)
      exact mem_flatMap.2 ⟨rep,hrp,hr⟩
    have hf : (b.reduced showSkipped rep).failed = [] := by
      simpa [reduced] using ha
    have hs : (b.reduced showSkipped rep).skipped =
        rep.skipped.filter b.names ++ (if showSkipped then rep.failed.map hide else []) := by
      rw [reduced,filter_eq_self.2 ha]
    refine ⟨_,_,hb.reduce_eq showSkipped rep,hf,filter_sublist,hs,?_⟩
    rw [hb.reduce_eq,reduced_reduced]

/-- A bucket beside a finding without a resource: no baseline can be written. -/
theorem toValue_unnamed_beside_named : ¬ ∃ written : Value,
    (ofReports [⟨"arm",[],[openBucket,{openBucket with resource := none}],[],[],[],[]⟩]).toValue = .ok written := by
  intro h
  have hs := (sortable_ofReports_iff _).1 ((grouped_ofReports _).exists_toValue_iff.1 h)
  have hsame := hs openBucket (by simp) {openBucket with resource := none} (by simp) rfl
  cases hsame

end InfraAudit.Baseline
