import InfraAudit.Pipeline
import InfraAudit.Proofs.Success

/-!
The images that the jobs of a workflow run in. They are found unless some job has a container that is no mapping, or one whose
image cannot be told apart from others.
-/

namespace InfraAudit.Pipeline

open List Value Document

variable {i : Image} {found out : List Image}

lemma exists_insert_iff : (∃ out, i.insert found = .ok out) ↔ i.name.hashable := by
  rw [Image.insert]
  cases i.name.hashable with
  | false => simp
  | true =>
    simp only [Bool.not_true,Bool.false_eq_true,if_false,iff_true]
    split <;> exact ⟨_,rfl⟩

lemma of_insert (h : i.insert found = .ok out) :
    found ⊆ out ∧ (∀ j ∈ out, j ∈ found ∨ j = i) ∧ ∃ j ∈ out, j.name = i.name ∨ (j.name == i.name) := by
  rw [Image.insert] at h
  split at h
  · cases h
  · split at h
    · next hany =>
      cases h
      obtain ⟨j,hj,heq⟩ := any_eq_true.1 hany
      simp only [Bool.and_eq_true] at heq
      exact ⟨Subset.refl _,fun _ => .inl,j,hj,.inr heq.1.1⟩
    · cases h
      exact ⟨subset_append_left ..,fun j hj => by simpa using hj,i,by simp,.inl rfl⟩

namespace GithubActions

variable {job : Value} {jobs : List Value}

def container (job : Value) : Value := (job.get? "container").getD (.dict [])

def imageName (job : Value) : Value := ((container job).get? "image").getD ""

def Readable (job : Value) : Prop :=
  job.isDict → (container job).isDict ∧ ((imageName job).truthy → (imageName job).hashable)

def Names (job name : Value) : Prop := job.isDict ∧ imageName job = name ∧ name.truthy

/-- What a run has found: all that was there, images that jobs name, and one for each of these names. -/
structure Finds (jobs : List Value) (found out : List Image) : Prop where
  kept : found ⊆ out
  named : ∀ i ∈ out, i ∈ found ∨ ∃ job ∈ jobs, Names job i.name
  complete : ∀ job ∈ jobs, ∀ name, Names job name → ∃ i ∈ out, i.name = name ∨ (i.name == name)

lemma addImage_eq (hj : job.isDict) (hc : (container job).isDict) : addImage found job =
    if (imageName job).truthy then Image.insert ⟨imageName job,((container job).get? startLine).getD (.int 0),
      ((container job).get? endLine).getD (.int 0)⟩ found else .ok found := by
  rw [container] at hc
  simp only [addImage,hj,Bool.not_true,Bool.false_eq_true,if_false,getOr_of_isDict hj,ok_bind,getOr_of_isDict hc]
  rfl

lemma addImage_not_dict (hj : job.isDict) (hc : (container job).isDict = false) :
    addImage found job = .error .noMember := by
  simp only [addImage,hj,Bool.not_true,Bool.false_eq_true,if_false,getOr_of_isDict hj,ok_bind]
  show (do let first ← (container job).getOr startLine _; _) = _
  cases hv : container job with
  | dict fs => cases (hv ▸ hc : (dict fs).isDict = false)
  | table es => cases (hv ▸ hc : (table es).isDict = false)
  | _ => rfl

lemma exists_addImage_iff : (∃ out, addImage found job = .ok out) ↔ Readable job := by
  cases hj : job.isDict with
  | false => simp [Readable,addImage,hj]
  | true =>
    cases hc : (container job).isDict with
    | false => simp [Readable,hj,hc,addImage_not_dict hj hc]
    | true =>
      rw [addImage_eq hj hc]
      split
      · next ht => simp [exists_insert_iff,Readable,hj,hc,ht]
      · next ht => simp [Readable,hj,hc,ht]

lemma finds_addImage (h : addImage found job = .ok out) : Finds [job] found out := by
  have hr := exists_addImage_iff.1 ⟨out,h⟩
  by_cases hn : job.isDict ∧ (imageName job).truthy
  · obtain ⟨hj,ht⟩ := hn
    rw [addImage_eq hj (hr hj).1,if_pos ht] at h
    obtain ⟨hk,hm,i,hi,heq⟩ := of_insert h
    refine ⟨hk,fun i hi => ?_,fun job' hj' name hn => ?_⟩
    · rcases hm i hi with hi | rfl
      · exact .inl hi
      · exact .inr ⟨job,mem_cons_self,hj,rfl,ht⟩
    · obtain rfl := mem_singleton.1 hj'
      obtain ⟨-,rfl,-⟩ := hn
      exact ⟨i,hi,heq⟩
  · have hf : found = out := by
      cases hj : job.isDict with
      | false => simpa [addImage,hj] using h
      | true =>
        rw [addImage_eq hj (hr hj).1,if_neg fun ht => hn ⟨hj,ht⟩] at h
        exact Except.ok.inj h
    subst hf
    refine ⟨Subset.refl _,fun _ => .inl,fun job' hj' name ⟨hj,heq,ht⟩ => absurd ?_ hn⟩
    obtain rfl := mem_singleton.1 hj'
    exact ⟨hj,heq ▸ ht⟩

lemma Finds.append (h : Finds jobs found mid) (h' : Finds later mid out) : Finds (jobs ++ later) found out where
  kept := Subset.trans h.kept h'.kept
  named i hi := by
    rcases h'.named i hi with hi | ⟨job,hj,hn⟩
    · exact (h.named i hi).imp_right fun ⟨job,hj,hn⟩ => ⟨job,mem_append_left _ hj,hn⟩
    · exact .inr ⟨job,mem_append_right _ hj,hn⟩
  complete job hj name hn := by
    rcases mem_append.1 hj with hj | hj
    · obtain ⟨i,hi,heq⟩ := h.complete job hj name hn
      exact ⟨i,h'.kept hi,heq⟩
    · exact h'.complete job hj name hn

lemma finds_foldlM (h : jobs.foldlM addImage found = .ok out) : Finds jobs found out := by
  induction jobs generalizing found with
  | nil =>
    cases h
    exact ⟨Subset.refl _,fun _ => .inl,by simp⟩
  | cons job jobs ih =>
    rw [foldlM_cons] at h
    obtain ⟨mid,hm,h⟩ := bind_eq_ok.1 h
    exact (finds_addImage hm).append (ih h)

lemma exists_foldlM_iff : (∃ out, jobs.foldlM addImage found = .ok out) ↔ ∀ job ∈ jobs, Readable job := by
  induction jobs generalizing found with
  | nil => simp
  | cons job jobs ih =>
    rw [forall_mem_cons,← @exists_addImage_iff found,foldlM_cons]
    simp only [bind_eq_ok]
    constructor
    · rintro ⟨out,mid,hm,h⟩
      exact ⟨⟨mid,hm⟩,ih.1 ⟨out,h⟩⟩
    · rintro ⟨⟨mid,hm⟩,h⟩
      obtain ⟨out,h⟩ := ih.2 h
      exact ⟨out,mid,hm,h⟩

def jobsOf (root : Value) : Value := (root.get? "jobs").getD (.dict [])

lemma images_eq {d : Lined} (hr : d.root.isDict) (hj : (jobsOf d.root).isDict) :
    images (some d) = ((jobsOf d.root).entries.map Prod.snd).foldlM addImage [] := by
  rw [jobsOf] at hj ⊢
  simp only [images,hr,Bool.not_true,Bool.false_eq_true,if_false,getOr_of_isDict hr,ok_bind,valuesOf,pairs,hj,if_true]
  rfl

/-- A container that is a text names no image: it stops the search. -/
theorem images_returns_iff {d : Lined} (hr : d.root.isDict = true) (hj : (jobsOf d.root).isDict = true) :
    ((∃ found, images (some d) = .ok found) ↔ ∀ e ∈ (jobsOf d.root).entries, Readable e.2) ∧
    ∀ found, images (some d) = .ok found →
      (∀ i ∈ found, ∃ e ∈ (jobsOf d.root).entries, Names e.2 i.name) ∧
      (∀ e ∈ (jobsOf d.root).entries, ∀ name, Names e.2 name → ∃ i ∈ found, i.name = name ∨ (i.name == name) = true) ∧
      ∀ s, (∃ i ∈ found, i.name.text? = some s) ↔
        ∃ e ∈ (jobsOf d.root).entries, ∃ name, Names e.2 name ∧ name.text? = some s := by
  rw [images_eq hr hj]
  refine ⟨exists_foldlM_iff.trans forall_mem_map,fun found h => ?_⟩
  have hf := finds_foldlM h
  have hn : ∀ i ∈ found, ∃ e ∈ (jobsOf d.root).entries, Names e.2 i.name := by
    intro i hi
    obtain ⟨job,hj,hn⟩ := (hf.named i hi).resolve_left not_mem_nil
    obtain ⟨e,he,rfl⟩ := mem_map.1 hj
    exact ⟨e,he,hn⟩
  have hc := forall_mem_map.1 hf.complete
  refine ⟨hn,hc,fun s => ⟨fun ⟨i,hi,ht⟩ => ?_,fun ⟨e,he,name,hs,ht⟩ => ?_⟩⟩
  · obtain ⟨e,he,hs⟩ := hn i hi
    exact ⟨e,he,_,hs,ht⟩
  · obtain ⟨i,hi,heq⟩ := hc e he name hs
    exact ⟨i,hi,heq.elim (fun heq => heq ▸ ht) (text?_of_eq_right · ht)⟩

def oneJob (container : Value) : Lined where
  path := ".github/workflows/w.yml"
  root := .dict [("jobs",.dict [("build",.dict [("container",container)])])]
  lines := []

theorem images_returns_iff_oneJob :
    (∃ found, images (some (oneJob (.dict [("image","alpine:3")]))) = .ok found ∧ ∃ i ∈ found, i.name.text? = some "alpine:3") ∧
      ¬∃ found, images (some (oneJob "node:14")) = .ok found := by
  constructor
  · have ⟨hret,hfound⟩ := @images_returns_iff (oneJob (.dict [("image","alpine:3")])) rfl rfl
    obtain ⟨found,h⟩ := hret.2 fun e he _ => mem_singleton.1 he ▸ ⟨rfl,fun _ => rfl⟩
    exact ⟨found,h,((hfound found h).2.2 _).2 ⟨_,mem_cons_self,_,⟨rfl,rfl,rfl⟩,rfl⟩⟩
  · intro h
    have hr := (@images_returns_iff (oneJob "node:14") rfl rfl).1.1 h _ mem_cons_self rfl
    cases hr.1

end GithubActions

end InfraAudit.Pipeline
