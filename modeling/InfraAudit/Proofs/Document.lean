import InfraAudit.HostSettings.Scan
import InfraAudit.Pipeline
import InfraAudit.Proofs.Success

/-!
What a rule leaves behind after a walk over a list of mappings. All judgements go under one key, so the last one written
stays, and the walk ends with the first that fails.
-/

namespace InfraAudit.Document

open List

variable {π : Type} {o : Outcome π} {acc : Outcomes π} {key : String}

lemma Outcomes.lookup_insert (key : String) (o : Outcome π) (acc : Outcomes π) (q : String) :
    (acc.insert key o).lookup q = if q = key then some o else acc.lookup q := by
  have hu : acc.insert key o = upsert key o (fun _ => o) acc := by
    induction acc with
    | nil => rfl
    | cons e acc ih => grind [Outcomes.insert,upsert]
  simp [hu,lookup_upsert]

namespace Application

variable (a : Application π) {item part : Value} {items rest : List Value}

def parts (items : List Value) : List Value := items.filterMap (·.get? a.name)

def FailsAt (part : Value) (place : π) : Prop := a.skip = none ∧ a.rule.scan part = .ok (.failed,place)

def Fails (part : Value) : Prop := ∃ place, a.FailsAt part place

/-- The part is the first that fails, or the last where none before it does. -/
def Decides (part : Value) (parts : List Value) : Prop :=
  ∃ before after, parts = before ++ part :: after ∧ (∀ p ∈ before, ¬a.Fails p) ∧ (a.Fails part ∨ after = [])

variable {a}

lemma exists_judge (h : ∃ r, a.rule.scan part = .ok r) :
    ∃ o, a.rule.judge a.skip part = .ok o ∧ (o.verdict = .failed ↔ a.Fails part) ∧
      ∀ place, a.FailsAt part place → o.place = some place := by
  obtain ⟨⟨verdict,place⟩,hr⟩ := h
  cases hs : a.skip with
  | some s => exact ⟨_,rfl,by simp [Fails,FailsAt,hs],fun place hf => absurd hf.1 (by simp [hs])⟩
  | none =>
    refine ⟨{rule := a.rule, verdict, place := some place},?_,?_,?_⟩
    · simp only [Rule.judge,hr,ok_bind]
      rfl
    · simp [Fails,FailsAt,hs,hr]
    · rintro place' ⟨-,hr'⟩
      cases hr.symm.trans hr'
      rfl

lemma overItems_cons_none (hd : item.isDict) (h : item.get? a.name = none) :
    a.overItems (item::rest) acc = a.overItems rest acc := by
  rw [overItems,has_of_isDict hd,ok_bind,Value.hasKey,h]
  rfl

lemma overItems_cons_some (hk : a.scheme.key a.entity a.name a.rule.id part = .ok key) (hd : item.isDict)
    (h : item.get? a.name = some part) (hj : a.rule.judge a.skip part = .ok o) : a.overItems (item::rest) acc =
      if o.verdict = .failed then .ok (acc.insert key o) else a.overItems rest (acc.insert key o) := by
  simp only [overItems,has_of_isDict hd,ok_bind,Value.hasKey,h,Option.isSome_some,if_true,field_of_get? h,keep,hj,hk,
    beq_iff_eq]
  rfl

lemma overItems_of_parts_nil (hd : ∀ v ∈ items, v.isDict) (h : a.parts items = []) :
    a.overItems items acc = .ok acc := by
  induction items with
  | nil => rfl
  | cons item rest ih =>
    obtain ⟨hdi,hd⟩ := forall_mem_cons.1 hd
    cases hg : item.get? a.name with
    | none => rw [overItems_cons_none hdi hg,ih hd (by simpa [parts,hg] using h)]
    | some part => simp [parts,hg] at h

/-- Each step writes under the one key, so of the earlier writes nothing is left. -/
lemma overItems_writes (hd : ∀ v ∈ items, v.isDict) (hs : ∀ part ∈ a.parts items, ∃ r, a.rule.scan part = .ok r)
    (hk : ∀ part, a.scheme.key a.entity a.name a.rule.id part = .ok key) (hne : a.parts items ≠ []) (acc : Outcomes π) :
    ∃ part o out, a.Decides part (a.parts items) ∧ a.rule.judge a.skip part = .ok o ∧ a.overItems items acc = .ok out ∧
      ∀ q, out.lookup q = if q = key then some o else acc.lookup q := by
  induction items generalizing acc with
  | nil => cases hne rfl
  | cons item rest ih =>
    obtain ⟨hdi,hd⟩ := forall_mem_cons.1 hd
    cases hg : item.get? a.name with
    | none =>
      have hp : a.parts (item::rest) = a.parts rest := by simp [parts,hg]
      rw [hp] at hs hne ⊢
      rw [overItems_cons_none hdi hg]
      exact ih hd hs hne acc
    | some part =>
      have hp : a.parts (item::rest) = part :: a.parts rest := by simp [parts,hg]
      rw [hp] at hs ⊢
      obtain ⟨hr,hs⟩ := forall_mem_cons.1 hs
      obtain ⟨o,hj,hf,-⟩ := exists_judge hr
      rw [overItems_cons_some (hk part) hdi hg hj]
      split
      · next hv => exact ⟨part,o,_,⟨[],_,rfl,by simp,.inl (hf.1 hv)⟩,hj,rfl,Outcomes.lookup_insert key o acc⟩
      · next hv =>
        by_cases hn : a.parts rest = []
        · exact ⟨part,o,_,⟨[],[],by rw [hn]; rfl,by simp,.inr rfl⟩,hj,overItems_of_parts_nil hd hn,
            Outcomes.lookup_insert key o acc⟩
        · obtain ⟨last,o',out,⟨before,after,heq,hb,hl⟩,hj',ho,hq⟩ := ih hd hs hn (acc.insert key o)
          refine ⟨last,o',out,⟨part::before,after,by rw [heq]; rfl,?_,hl⟩,hj',ho,fun q => ?_⟩
          · exact forall_mem_cons.2 ⟨fun h => hv (hf.2 h),hb⟩
          · rw [hq,Outcomes.lookup_insert]
            split <;> rfl

theorem overItems_failed_iff (hd : ∀ v ∈ items, v.isDict = true) (hs : ∀ part ∈ a.parts items, ∃ r, a.rule.scan part = .ok r)
    (hk : ∀ part, a.scheme.key a.entity a.name a.rule.id part = .ok key) (acc : Outcomes π) :
    ∃ out, a.overItems items acc = .ok out ∧ (∀ q ≠ key, out.lookup q = acc.lookup q) ∧ (a.parts items = [] → out = acc) ∧
      (a.parts items ≠ [] → ∃ o, out.lookup key = some o ∧
        (o.verdict = .failed ↔ ∃ part ∈ a.parts items, a.Fails part) ∧
        (o.verdict ≠ .failed → ∃ part ∈ (a.parts items).getLast?, a.rule.judge a.skip part = .ok o) ∧
        (o.verdict = .failed → ∃ before part after place, a.parts items = before ++ part :: after ∧
          (∀ p ∈ before, ¬a.Fails p) ∧ a.FailsAt part place ∧ o.place = some place)) := by
  by_cases hne : a.parts items = []
  · exact ⟨acc,overItems_of_parts_nil hd hne,fun _ _ => rfl,fun _ => rfl,fun h => absurd hne h⟩
  · obtain ⟨part,o,out,⟨before,after,heq,hb,hl⟩,hj,ho,hq⟩ := overItems_writes hd hs hk hne acc
    have hm : part ∈ a.parts items := by simp [heq]
    obtain ⟨o',hj',hf,hplace⟩ := exists_judge (hs part hm)
    cases hj.symm.trans hj'
    refine ⟨out,ho,fun q h => by rw [hq,if_neg h],fun h => absurd h hne,fun _ => ⟨o,by simp [hq],?_,fun hv => ?_,fun hv => ?_⟩⟩
    · refine ⟨fun hv => ⟨part,hm,hf.1 hv⟩,fun ⟨p,hp,hpf⟩ => hf.2 ?_⟩
      rcases hl with hl | rfl
      · exact hl
      · rw [heq] at hp
        rcases mem_append.1 hp with hp | hp
        · exact absurd hpf (hb p hp)
        · rwa [← mem_singleton.1 hp]
    · obtain rfl := hl.resolve_left fun h => hv (hf.2 h)
      exact ⟨part,by simp [heq],hj⟩
    · obtain ⟨place,hfp⟩ := hf.1 hv
      exact ⟨before,part,after,place,heq,hb,hfp,hplace place hfp⟩

/-- The commands of steps, judged under the plain scheme of keys. -/
def commandSteps : Application Value where
  scheme := HostSettings.Host.scheme
  rule := ⟨"CKV_GHA_1","",["step"],.each,Pipeline.GithubActions.insecureCommands⟩
  skip := none
  entity := "step"
  name := "step"

def stepAllowing (allowed : Bool) : Value := .dict [("step",.dict [("env",.dict [("ACTIONS_ALLOW_UNSECURE_COMMANDS",allowed)])])]

theorem overItems_failed_iff_commandSteps :
    ∃ out, commandSteps.overItems [stepAllowing false,.dict [],stepAllowing true,stepAllowing false] [] = .ok out ∧
      ∃ o, out.lookup "step.step.CKV_GHA_1" = some o ∧ o.verdict = .failed := by
  have hs : ∀ part ∈ commandSteps.parts [stepAllowing false,.dict [],stepAllowing true,stepAllowing false],
      ∃ r, commandSteps.rule.scan part = .ok r := by
    intro part hp
    fin_cases hp <;> exact ⟨_,rfl⟩
  obtain ⟨out,ho,-,-,hk⟩ := overItems_failed_iff (by decide) hs (fun _ => rfl) []
  obtain ⟨o,hl,hf,-⟩ := hk (by decide)
  exact ⟨out,ho,o,hl,hf.2 ⟨_,mem_cons_of_mem _ mem_cons_self,_,rfl,rfl⟩⟩

end Application

end InfraAudit.Document
