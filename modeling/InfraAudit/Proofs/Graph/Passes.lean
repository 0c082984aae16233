import InfraAudit.Graph.Basic
import Mathlib

/-!
The order in which edges are worked out. Without cycles each pass reaches one height more, and a work list runs empty only
when no edge is left.
-/

namespace InfraAudit.Graph.Links

open List Nat

variable {l : Links}

def WellFormed (l : Links) : Prop := ∀ e ∈ l.edges, e.origin < l.size ∧ e.dest < l.size

instance (l : Links) : Decidable l.WellFormed :=
  inferInstanceAs (Decidable (∀ e ∈ l.edges, e.origin < l.size ∧ e.dest < l.size))

/-- A path of the given number of edges from one block to another. -/
inductive Path (l : Links) : Nat → Nat → Nat → Prop where
  | stay (v : Nat) : Path l v v 0
  | step {e : Edge} {w n : Nat} : e ∈ l.edges → Path l e.dest w n → Path l e.origin w (n+1)

def Acyclic (l : Links) : Prop := ∀ v n, ¬ l.Path v v (n+1)

@[simp] lemma mem_out : e ∈ l.out v ↔ e ∈ l.edges ∧ e.origin = v := by simp [out]

@[simp] lemma mem_into : e ∈ l.into v ↔ e ∈ l.edges ∧ e.dest = v := by simp [into]

lemma Path.add_le_rank {rank : Nat → Nat} (falls : ∀ e ∈ l.edges, rank e.dest < rank e.origin)
    (p : l.Path v w n) : rank w+n ≤ rank v := by
  induction p with
  | stay v => simp
  | @step e w n he _ ih =>
    have h := falls e he
    omega

lemma acyclic_of_rank (rank : Nat → Nat) (falls : ∀ e ∈ l.edges, rank e.dest < rank e.origin) : l.Acyclic := by
  intro v n p
  have h := p.add_le_rank falls
  omega

lemma Path.exists_edges (acyclic : l.Acyclic) (p : l.Path v w n) :
    ∃ es : List Edge, es.length = n ∧ es.Nodup ∧ ∀ d ∈ es, d ∈ l.edges ∧ ∃ m, l.Path v d.origin m := by
  induction p with
  | stay v => exact ⟨[],rfl,.nil,by simp⟩
  | @step e w n he _ ih =>
    obtain ⟨es,hl,hn,hes⟩ := ih
    refine ⟨e :: es,by simp [hl],nodup_cons.mpr ⟨?_,hn⟩,?_⟩
    · intro again
      obtain ⟨m,back⟩ := (hes e again).2
      exact acyclic _ _ (.step he back)
    · intro d hd
      rcases mem_cons.mp hd with rfl | hd
      · exact ⟨he,0,.stay _⟩
      · obtain ⟨hm,m,hp⟩ := hes d hd
        exact ⟨hm,m+1,.step he hp⟩

lemma Path.length_le (acyclic : l.Acyclic) (p : l.Path v w n) : n ≤ l.edges.length := by
  obtain ⟨es,rfl,hn,hes⟩ := p.exists_edges acyclic
  exact hn.length_le_of_subset fun d hd => (hes d hd).1

/-- The longest path of at most so many edges. -/
def heightWithin (l : Links) : Nat → Nat → Nat
  | 0,_ => 0
  | n+1,v => ((l.out v).map fun e => l.heightWithin n e.dest+1).max?.getD 0

def height (l : Links) (v : Nat) : Nat := l.heightWithin l.edges.length v

lemma exists_path_heightWithin (l : Links) (n v : Nat) : ∃ w, l.Path v w (l.heightWithin n v) := by
  induction n generalizing v with
  | zero => exact ⟨v,.stay v⟩
  | succ n ih =>
    simp only [heightWithin]
    cases h : ((l.out v).map fun e => l.heightWithin n e.dest+1).max? with
    | none => exact ⟨v,.stay v⟩
    | some m =>
      obtain ⟨e,he,rfl⟩ := mem_map.mp (max?_mem h)
      obtain ⟨hm,rfl⟩ := mem_out.mp he
      obtain ⟨w,hp⟩ := ih e.dest
      exact ⟨w,.step hm hp⟩

lemma Path.le_heightWithin (p : l.Path v w k) (hk : k ≤ n) : k ≤ l.heightWithin n v := by
  induction p generalizing n with
  | stay v => simp
  | @step e w k he _ ih =>
    cases n with
    | zero => omega
    | succ n =>
      have hd := ih (n := n) (by omega)
      have hm : l.heightWithin n e.dest+1 ∈
          (l.out e.origin).map fun d => l.heightWithin n d.dest+1 := mem_map.mpr ⟨e,mem_out.mpr ⟨he,rfl⟩,rfl⟩
      have hmx := le_max?_getD_of_mem (k := 0) hm
      simp only [heightWithin]
      omega

lemma height_isGreatest (acyclic : l.Acyclic) (v : Nat) : IsGreatest {n | ∃ w, l.Path v w n} (l.height v) := by
  refine ⟨l.exists_path_heightWithin _ v,?_⟩
  rintro n ⟨w,p⟩
  exact p.le_heightWithin (p.length_le acyclic)

lemma height_dest_lt (acyclic : l.Acyclic) (he : e ∈ l.edges) : l.height e.dest < l.height e.origin := by
  obtain ⟨w,p⟩ := (height_isGreatest acyclic e.dest).1
  exact (height_isGreatest acyclic e.origin).2 ⟨w,.step he p⟩

def Progress.repeating (p : Progress) : Bool := decide (overlapPercent p.now ((p.past[1]?).getD []) > repeatPercent)

def Progress.counted (p : Progress) : Progress := {p with repeats := if p.repeating then p.repeats+1 else p.repeats}

def progressAt (l : Links) : Nat → Progress
  | 0 => {now := l.byDestDegree (l.ends.flatMap l.into)}
  | k+1 => (l.progressAt k).counted.next l

def workList (l : Links) (k : Nat) : List Edge := (l.progressAt k).now

def workedOut (l : Links) (k : Nat) : List Edge := (l.progressAt k).past.flatten

/-- The reasons for which passes may end. -/
structure Run (l : Links) (limit k : Nat) (ps : List (List Edge)) : Prop where
  lists : ps = (range' k ps.length).map l.workList
  ends : ps.length = limit ∨ l.workList (k+ps.length) = [] ∨ mostRepeats < (l.progressAt (k+ps.length+1)).repeats

lemma passesFrom_progressAt (l : Links) (limit k : Nat) : passesFrom l (limit+1) (l.progressAt k) =
      if (l.workList k).isEmpty then [] else if mostRepeats < (l.progressAt (k+1)).repeats then []
      else l.workList k :: passesFrom l limit (l.progressAt (k+1)) := by
  simp [passesFrom,workList,progressAt,Progress.counted,Progress.repeating,Progress.next]

lemma run_passesFrom (l : Links) (limit k : Nat) : l.Run limit k (passesFrom l limit (l.progressAt k)) := by
  induction limit generalizing k with
  | zero => exact ⟨rfl,.inl rfl⟩
  | succ limit ih =>
    rw [passesFrom_progressAt]
    split
    · next h => exact ⟨rfl,.inr (.inl (isEmpty_iff.mp h))⟩
    split
    · next h => exact ⟨rfl,.inr (.inr h)⟩
    obtain ⟨hl,he⟩ := ih (k+1)
    constructor
    · rw [length_cons,range'_succ,map_cons,← hl]
    · rw [length_cons,← add_assoc,add_right_comm k]
      rcases he with h | h | h
      · exact .inl (by rw [h])
      · exact .inr (.inl h)
      · exact .inr (.inr h)

lemma run_passes (l : Links) : l.Run mostPasses 0 l.passes := l.run_passesFrom mostPasses 0

lemma passes_eq_map (l : Links) : l.passes = (range l.passes.length).map l.workList := by
  have h := l.run_passes.lists
  rwa [← range_eq_range'] at h

lemma mem_take_passes (hk : k ≤ l.passes.length) : e ∈ (l.passes.take k).flatten ↔ ∃ j < k, e ∈ l.workList j := by
  rw [l.passes_eq_map,← map_take,take_range,min_eq_left hk]
  simp

lemma mem_flatten_passes : e ∈ l.passes.flatten ↔ ∃ j < l.passes.length, e ∈ l.workList j := by
  have h := mem_take_passes (l := l) (le_refl _) (e := e)
  rwa [take_length] at h

@[simp] lemma mem_byDestDegree : e ∈ l.byDestDegree es ↔ e ∈ es := by simp [byDestDegree,mem_mergeSort]

@[simp] lemma mem_intoAny : e ∈ l.intoAny vs ↔ e ∈ l.edges ∧ e.dest ∈ vs := by simp [intoAny,mem_eraseDups,and_comm]

@[simp] lemma mem_insertVertex : v ∈ insertVertex w vs ↔ v = w ∨ v ∈ vs := by
  unfold insertVertex
  split <;> simp_all [or_comm]

lemma mem_ends : v ∈ l.ends ↔ v < l.size ∧ l.out v = [] ∧ l.into v ≠ [] := by simp [ends]

lemma mem_workList_zero (wf : l.WellFormed) : e ∈ l.workList 0 ↔ e ∈ l.edges ∧ l.out e.dest = [] := by
  simp only [workList,progressAt,mem_byDestDegree,mem_flatMap,mem_ends,mem_into]
  constructor
  · rintro ⟨v,⟨-,ho,-⟩,he,rfl⟩
    exact ⟨he,ho⟩
  · rintro ⟨he,ho⟩
    exact ⟨e.dest,⟨(wf e he).2,ho,ne_nil_of_mem (mem_into.mpr ⟨he,rfl⟩)⟩,he,rfl⟩

lemma mem_foldl_insertVertex (es : List Edge) (vs : List Nat) (v : Nat) :
    v ∈ es.foldl (fun vs e => insertVertex e.origin vs) vs ↔ v ∈ vs ∨ ∃ e ∈ es, e.origin = v := by
  induction es generalizing vs with
  | nil => simp
  | cons e es ih => rw [foldl_cons,ih,mem_insertVertex,exists_mem_cons_iff,or_comm (a := v = _),or_assoc,eq_comm]

lemma workedOut_succ (l : Links) (k : Nat) : l.workedOut (k+1) = l.workList k ++ l.workedOut k := rfl

lemma mem_workedOut : e ∈ l.workedOut k ↔ ∃ j < k, e ∈ l.workList j := by
  induction k with
  | zero => simp [workedOut,progressAt]
  | succ k ih => rw [workedOut_succ,mem_append,ih,Nat.exists_lt_succ_right,or_comm]

lemma mem_finished_succ : v ∈ (l.progressAt (k+1)).finished ↔ v ∈ (l.progressAt k).finished ∨
      (∀ d ∈ l.out v, d ∈ l.workedOut (k+1)) ∧ ∃ e ∈ l.workList k, e.origin = v := by
  have h := mem_foldl_insertVertex ((l.workList k).filter fun e => (l.out e.origin).all (l.workedOut (k+1)).contains)
    (l.progressAt k).finished v
  rw [foldl_filter] at h
  refine h.trans (or_congr_right ?_)
  simp only [mem_filter,all_eq_true,contains_iff_mem]
  grind

lemma mem_workList_succ : e ∈ l.workList (k+1) ↔
      e ∈ l.edges ∧ e.dest ∈ (l.progressAt (k+1)).finished ∧ e ∉ l.workList k := by
  have h : l.workList (k+1) = l.byDestDegree ((l.intoAny
      ((l.progressAt (k+1)).finished.mergeSort)).filter fun d => !(l.workList k).contains d) := rfl
  simp [h,and_assoc]

lemma mem_edges_of_mem_workList (h : e ∈ l.workList k) : e ∈ l.edges := by
  cases k with
  | zero =>
    simp only [workList,progressAt,mem_byDestDegree,mem_flatMap,mem_into] at h
    obtain ⟨_,_,he,_⟩ := h
    exact he
  | succ k => exact (mem_workList_succ.mp h).1

/-- The finished blocks are those with edges that have all been worked out. A block becomes finished
in the pass that works out the last of them. -/
lemma mem_finished : v ∈ (l.progressAt k).finished ↔ l.out v ≠ [] ∧ ∀ d ∈ l.out v, d ∈ l.workedOut k := by
  induction k with
  | zero =>
    simp only [progressAt,workedOut,flatten_nil,not_mem_nil,false_iff,not_and]
    intro hne ha
    obtain ⟨d,hd⟩ := exists_mem_of_ne_nil _ hne
    exact ha d hd
  | succ k ih =>
    rw [mem_finished_succ,ih]
    constructor
    · rintro (⟨hne,ha⟩ | ⟨ha,e,he,rfl⟩)
      · exact ⟨hne,fun d hd => mem_append_right _ (ha d hd)⟩
      · have hm : e ∈ l.out e.origin := mem_out.mpr ⟨mem_edges_of_mem_workList he,rfl⟩
        exact ⟨ne_nil_of_mem hm,ha⟩
    · rintro ⟨hne,ha⟩
      by_cases hold : ∀ d ∈ l.out v, d ∈ l.workedOut k
      · exact .inl ⟨hne,hold⟩
      · push Not at hold
        obtain ⟨d,hd,hn⟩ := hold
        rcases mem_append.mp (ha d hd) with h | h
        · exact .inr ⟨ha,d,h,(mem_out.mp hd).2⟩
        · exact absurd h hn

lemma out_dest_workedOut (he : e ∈ l.workList k)
    (hd : d ∈ l.out e.dest) (wf : l.WellFormed) : d ∈ l.workedOut k := by
  cases k with
  | zero =>
    rw [((mem_workList_zero wf).mp he).2] at hd
    simp at hd
  | succ k => exact (mem_finished.mp (mem_workList_succ.mp he).2.1).2 d hd

lemma workedOut_of_out_dest (wf : l.WellFormed) (he : e ∈ l.edges)
    (ho : ∀ d ∈ l.out e.dest, d ∈ l.workedOut k) : e ∈ l.workedOut (k+1) := by
  by_cases hn : l.out e.dest = []
  · have hz := (mem_workList_zero wf).mpr ⟨he,hn⟩
    exact mem_workedOut.mpr ⟨0,succ_pos k,hz⟩
  · cases k with
    | zero =>
      obtain ⟨d,hd⟩ := exists_mem_of_ne_nil _ hn
      exact absurd (ho d hd) (by simp [mem_workedOut])
    | succ k =>
      have hf := mem_finished.mpr ⟨hn,ho⟩
      by_cases hnw : e ∈ l.workList k
      · exact mem_workedOut.mpr ⟨k,by omega,hnw⟩
      · exact mem_workedOut.mpr ⟨k+1,by omega,mem_workList_succ.mpr ⟨he,hf,hnw⟩⟩

lemma workedOut_of_height_lt (wf : l.WellFormed) (acyclic : l.Acyclic)
    (he : e ∈ l.edges) (hk : l.height e.dest < k) : e ∈ l.workedOut k := by
  induction k generalizing e with
  | zero => omega
  | succ k ih =>
    refine workedOut_of_out_dest wf he fun d hd => ?_
    obtain ⟨hm,ho⟩ := mem_out.mp hd
    have hlt := height_dest_lt acyclic hm
    rw [ho] at hlt
    exact ih hm (by omega)

lemma exists_fresh (wf : l.WellFormed) (acyclic : l.Acyclic)
    (he : e ∈ l.edges) (hl : e ∉ l.workedOut k) : ∃ d ∈ l.workList k, d ∉ l.workedOut k := by
  -- the edge left with the lowest destination: all edges below it are done
  induction hh : l.height e.dest using Nat.strongRecOn generalizing e with
  | ind n ih =>
    by_cases hot : ∀ d ∈ l.out e.dest, d ∈ l.workedOut k
    · have hdn := workedOut_of_out_dest wf he hot
      rw [workedOut_succ,mem_append] at hdn
      exact ⟨e,hdn.resolve_right hl,hl⟩
    · push Not at hot
      obtain ⟨d,hd,hn⟩ := hot
      obtain ⟨hm,ho⟩ := mem_out.mp hd
      have hlt := height_dest_lt acyclic hm
      rw [ho] at hlt
      exact ih _ (by omega) hm hn rfl

/-- Each edge of a pass leads to a block whose own edges were worked out in earlier passes, in the
first pass to one without any. Without cycles, a number of passes works out all edges to blocks of
smaller height, and a work list that ran empty means that nothing is left. -/
theorem passes_follow_dependencies (l : Links) (wf : l.WellFormed) :
    (∀ es, l.passes[0]? = some es → ∀ e ∈ es, l.out e.dest = []) ∧
    (∀ k es, l.passes[k]? = some es → ∀ e ∈ es, ∀ d ∈ l.out e.dest, d ∈ (l.passes.take k).flatten) ∧ (l.Acyclic →
      (∀ k ≤ l.passes.length, ∀ e ∈ l.edges, l.height e.dest < k → e ∈ (l.passes.take k).flatten) ∧
      (l.workList l.passes.length = [] → ∀ e ∈ l.edges, e ∈ l.passes.flatten)) := by
  have hget : ∀ k es, l.passes[k]? = some es → k < l.passes.length ∧ es = l.workList k := by
    intro k es h
    obtain ⟨hk,-⟩ := List.getElem?_eq_some_iff.mp h
    rw [l.passes_eq_map,List.getElem?_map,List.getElem?_range hk] at h
    exact ⟨hk,(Option.some.inj h).symm⟩
  refine ⟨?_,?_,fun acyclic => ⟨?_,?_⟩⟩
  · intro es h e he
    obtain ⟨-,rfl⟩ := hget 0 es h
    exact ((mem_workList_zero wf).mp he).2
  · intro k es h e he d hd
    obtain ⟨hk,rfl⟩ := hget k es h
    exact (mem_take_passes (le_of_lt hk)).mpr (mem_workedOut.mp (out_dest_workedOut he hd wf))
  · intro k hk e he hheight
    exact (mem_take_passes hk).mpr (mem_workedOut.mp (workedOut_of_height_lt wf acyclic he hheight))
  · intro hempty e he
    rw [mem_flatten_passes,← mem_workedOut]
    by_contra hleft
    obtain ⟨d,hd,-⟩ := exists_fresh wf acyclic he hleft
    rw [hempty] at hd
    simp at hd

/-- A block that refers to two others, which refer to one more. -/
def diamond : Links := ⟨4,[⟨3,1,"left"⟩,⟨1,0,"base"⟩,⟨3,2,"right"⟩,⟨2,0,"base"⟩]⟩

theorem passes_follow_dependencies_diamond :
    diamond.WellFormed ∧ diamond.Acyclic ∧ diamond.workList diamond.passes.length = [] ∧
      (∀ e ∈ diamond.edges, e ∈ diamond.passes.flatten) ∧
      ∀ e ∈ diamond.edges, diamond.height e.dest < 1 → e ∈ (diamond.passes.take 1).flatten := by
  have wf : diamond.WellFormed := by decide
  have acyclic : diamond.Acyclic := acyclic_of_rank id (by decide)
  have hempty : diamond.workList diamond.passes.length = [] := by cbv
  have hone : 1 ≤ diamond.passes.length := by
    have h : diamond.passes.length = 2 := by cbv
    omega
  obtain ⟨hheight,hall⟩ := (passes_follow_dependencies diamond wf).2.2 acyclic
  exact ⟨wf,acyclic,hempty,hall hempty,hheight 1 hone⟩

end InfraAudit.Graph.Links
