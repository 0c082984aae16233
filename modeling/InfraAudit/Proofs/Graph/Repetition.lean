import InfraAudit.Proofs.Graph.Passes
import Mathlib.Data.List.Basic

/-!
The guard against passes that only repeat earlier ones may end the schedule of a graph without cycles before all edges are
worked out, but not while the passes are few or small.
-/

namespace InfraAudit.Graph.Links

open List

def repeatingPasses (l : Links) (n : Nat) : List Nat := (List.range n).filter fun k => (l.progressAt k).repeating

lemma repeatingPasses_succ (l : Links) (n : Nat) : l.repeatingPasses (n+1) =
      if (l.progressAt n).repeating then l.repeatingPasses n ++ [n] else l.repeatingPasses n := by
  cases h : (l.progressAt n).repeating <;>
    simp [repeatingPasses,range_succ,filter_append,h]

lemma repeats_progressAt (l : Links) (n : Nat) : (l.progressAt n).repeats = (l.repeatingPasses n).length := by
  induction n with
  | zero => rfl
  | succ n ih =>
    have h : (l.progressAt (n+1)).repeats =
        if (l.progressAt n).repeating then (l.progressAt n).repeats+1 else (l.progressAt n).repeats := rfl
    rw [h,repeatingPasses_succ,ih]
    split <;> simp

variable {l : Links}

lemma overlapPercent_eq_zero (h : ∀ e ∈ now, e ∉ earlier) : overlapPercent now earlier = 0 := by
  have hn : (now.eraseDups.filter fun e => earlier.contains e) = [] := by
    rw [filter_eq_nil_iff]
    intro e he
    simpa using h e (mem_eraseDups.mp he)
  simp only [overlapPercent,hn,length_nil,Nat.zero_mul,Nat.zero_div]

lemma eraseDups_sublist (es : List Edge) : es.eraseDups.Sublist es := by
  induction hn : es.length using Nat.strongRecOn generalizing es with
  | ind n ih =>
    cases es with
    | nil => simp
    | cons e es =>
      rw [eraseDups_cons]
      have hle : (es.filter fun d => !d == e).length ≤ es.length := length_filter_le _ _
      have hs := ih _ (by simp only [length_cons] at hn; omega) (es.filter fun d => !d == e) rfl
      exact (hs.trans filter_sublist).cons_cons e

lemma length_of_overlapPercent (he : e ∈ now) (hn : e ∉ earlier)
    (ho : overlapPercent now earlier > repeatPercent) : 12 ≤ now.length := by
  have hs := (eraseDups_sublist now).filter fun d => earlier.contains d
  have hle := hs.length_le
  have hlt : (now.filter fun d => earlier.contains d).length < now.length :=
    length_filter_lt_length_iff_exists.mpr ⟨e,he,by simpa using hn⟩
  have hp : 0 < now.length := length_pos_of_mem he
  have hm := (Nat.le_div_iff_mul_le hp).mp ho
  simp only [repeatPercent] at hm
  omega

lemma past_getElem?_one (l : Links) (k : Nat) : (l.progressAt (k+2)).past[1]? = some (l.workList k) := rfl

lemma three_le_of_repeating (wf : l.WellFormed) (h : (l.progressAt k).repeating) : 3 ≤ k := by
  by_contra hlt
  have hz : overlapPercent (l.workList k) (((l.progressAt k).past[1]?).getD []) = 0 := by
    refine overlapPercent_eq_zero fun e he => ?_
    match k, Nat.lt_of_not_le hlt with
    | 0,_ => simp [progressAt]
    | 1,_ => simp [progressAt,Progress.counted,Progress.next]
    | 2,_ =>
      rw [past_getElem?_one]
      intro hf
      have hfn := (mem_finished.mp (mem_workList_succ.mp he).2.1).1
      exact hfn ((mem_workList_zero wf).mp hf).2
  simp only [workList] at hz
  simp [Progress.repeating,hz] at h

lemma length_repeatingPasses_le (wf : l.WellFormed) (n : Nat) : (l.repeatingPasses n).length ≤ n - 3 := by
  induction n with
  | zero => simp [repeatingPasses]
  | succ n ih =>
    rw [repeatingPasses_succ]
    split
    · next h =>
      have hn := three_le_of_repeating wf h
      simp only [length_append,length_singleton]
      omega
    · omega

lemma length_workList_of_repeating (wf : l.WellFormed) (acyclic : l.Acyclic)
    (he : e ∈ l.edges) (hl : e ∉ l.workedOut k) (hr : (l.progressAt k).repeating) :
    3 ≤ k ∧ 12 ≤ (l.workList k).length := by
  have hk := three_le_of_repeating wf hr
  obtain ⟨d,hd,hf⟩ := exists_fresh wf acyclic he hl
  obtain ⟨j,rfl⟩ : ∃ j, k = j+2 := ⟨k - 2,by omega⟩
  simp only [Progress.repeating,past_getElem?_one,Option.getD_some] at hr
  refine ⟨hk,length_of_overlapPercent hd (fun hold => hf ?_) (of_decide_eq_true hr)⟩
  exact mem_workedOut.mpr ⟨j,by omega,hold⟩

/-- Without cycles and long paths, only the guard against repetition leaves an edge that is not worked
out. It does so after seven passes or more, and then the edge stands above a path of seven edges and
more than four passes of twelve edges or more were nearly the same as the ones two before. -/
theorem repetition_of_left {l : Links} (wf : l.WellFormed) (acyclic : l.Acyclic)
    (short : ∀ v w n, l.Path v w n → n < mostPasses) {e : Edge} (he : e ∈ l.edges) (hleft : e ∉ l.passes.flatten) :
    7 ≤ l.passes.length ∧ 7 ≤ l.height e.dest ∧ mostRepeats < (l.repeatingPasses (l.passes.length+1)).length ∧
      ∀ k ∈ l.repeatingPasses (l.passes.length+1), 3 ≤ k ∧ 12 ≤ (l.workList k).length := by
  rw [mem_flatten_passes,← mem_workedOut] at hleft
  have hheight : l.passes.length ≤ l.height e.dest := by
    by_contra hlt
    exact hleft (workedOut_of_height_lt wf acyclic he (by omega))
  have hrepeats : mostRepeats < (l.repeatingPasses (l.passes.length+1)).length := by
    rcases l.run_passes.ends with h | h | h
    · obtain ⟨w,p⟩ := (height_isGreatest acyclic e.dest).1
      have hlong := short _ _ _ (p.step he)
      omega
    · obtain ⟨d,hd,-⟩ := exists_fresh wf acyclic he hleft
      rw [Nat.zero_add] at h
      simp [h] at hd
    · rwa [Nat.zero_add,repeats_progressAt] at h
  have hfew := length_repeatingPasses_le wf (l.passes.length+1)
  have hseven : 7 ≤ l.passes.length := by
    simp only [mostRepeats] at hrepeats
    omega
  refine ⟨hseven,by omega,hrepeats,fun k hk => ?_⟩
  obtain ⟨hlt,hrep⟩ := List.mem_filter.mp hk
  rw [List.mem_range] at hlt
  refine length_workList_of_repeating wf acyclic he (fun hdone => hleft ?_) hrep
  obtain ⟨j,hj,hmem⟩ := mem_workedOut.mp hdone
  exact mem_workedOut.mpr ⟨j,by omega,hmem⟩

/-- A chain of nine blocks, with ten more that refer to each of two blocks near its end. -/
def crowdedChain : Links where
  size := 29
  edges := (List.range 8).map (fun i => ⟨i+1,i,"v"⟩) ++
    (List.range 10).map (fun i => ⟨i+9,1,"v"⟩) ++ (List.range 10).map (fun i => ⟨i+19,2,"v"⟩)

def crowdedChainRank (v : Nat) : Nat := if v ≤ 8 then v else 3

lemma crowdedChain_falls : ∀ e ∈ crowdedChain.edges, crowdedChainRank e.dest < crowdedChainRank e.origin := by decide

lemma crowdedChain_short (v w n : Nat) (p : crowdedChain.Path v w n) : n < mostPasses := by
  have h := p.add_le_rank crowdedChain_falls
  have hr : crowdedChainRank v ≤ 8 := by
    unfold crowdedChainRank
    split <;> omega
  simp only [mostPasses]
  omega

lemma crowdedChain_left : ⟨8,7,"v"⟩ ∉ crowdedChain.passes.flatten := by
  have h : crowdedChain.passes.flatten.contains ⟨8,7,"v"⟩ = false := by cbv
  simpa using h

theorem repetition_of_left_crowdedChain : ⟨8,7,"v"⟩ ∉ crowdedChain.passes.flatten ∧ 7 ≤ crowdedChain.passes.length ∧
      7 ≤ crowdedChain.height 7 ∧ mostRepeats < (crowdedChain.repeatingPasses (crowdedChain.passes.length+1)).length := by
  have h := repetition_of_left (l := crowdedChain) (by decide) (acyclic_of_rank _ crowdedChain_falls)
    crowdedChain_short (e := ⟨8,7,"v"⟩) (by decide) crowdedChain_left
  exact ⟨crowdedChain_left,h.1,h.2.1,h.2.2.1⟩

/-- Short paths alone do not keep the guard from ending the schedule too early. -/
theorem not_all_worked_out_of_short :
    ¬ ∀ l : Links, l.WellFormed → l.Acyclic → (∀ v w n, l.Path v w n → n < mostPasses) →
      ∀ e ∈ l.edges, e ∈ l.passes.flatten := by
  intro h
  exact crowdedChain_left (h crowdedChain (by decide) (acyclic_of_rank _ crowdedChain_falls)
    crowdedChain_short ⟨8,7,"v"⟩ (by decide))

end InfraAudit.Graph.Links
