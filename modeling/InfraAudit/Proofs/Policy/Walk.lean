import InfraAudit.Policy.Net
import Mathlib.Algebra.BigOperators.Group.Finset.Piecewise
import Mathlib.Algebra.Order.BigOperators.Group.Finset

/-!
The walk along the edges of a net takes every edge between the nodes once. What bounds it is twice the number of edges that
are left, and the way back.
-/

namespace InfraAudit.Policy.Net

open List

variable {v a n : Nat} {e : Nat × Nat}

variable {g : Net} {nodes : List Nat}

lemma mem_out : e ∈ g.out nodes v ↔ e ∈ g.edges ∧ e.1 = v ∧ e.2 ∈ nodes := by simp [out,mem_filter]

def ahead (g : Net) (nodes : List Nat) (w : Walk) (v : Nat) : List (Nat × Nat) := (w.remaining v).getD (g.out nodes v)

lemma lookup_filter_ne (h : a ≠ v) (l : List (Nat × β)) : (l.filter (·.1 != v)).lookup a = l.lookup a := by
  induction l with
  | nil => rfl
  | cons p l ih =>
    obtain ⟨k,b⟩ := p
    by_cases hk : k = v
    · subst hk
      have hne : (a == k) = false := by simpa using h
      simpa [lookup_cons,hne] using ih
    · simp [hk,lookup_cons,ih]

def Walk.onward (w : Walk) (v : Nat) (es : List (Nat × Nat)) (stack : List Nat) : Walk :=
  ⟨stack,(w.setRemaining v es).left⟩

lemma ahead_onward (w : Walk) (v : Nat) (es : List (Nat × Nat)) (stack : List Nat) (a : Nat) :
    g.ahead nodes (w.onward v es stack) a = if a = v then es else g.ahead nodes w a := by
  unfold ahead Walk.remaining Walk.onward Walk.setRemaining
  by_cases h : a = v
  · simp [h]
  · have hne : (a == v) = false := by simpa using h
    simp [h,lookup_cons,hne,lookup_filter_ne h]

/-- Of the edges out of a node the last are left. -/
def OnTrack (g : Net) (nodes : List Nat) (w : Walk) : Prop := ∀ a, g.ahead nodes w a <:+ g.out nodes a

lemma OnTrack.start (g : Net) (nodes stack : List Nat) : g.OnTrack nodes {stack} := fun _ => suffix_refl _

lemma OnTrack.mem (h : g.OnTrack nodes w) (he : e ∈ g.ahead nodes w a) :
    e ∈ g.edges ∧ e.1 = a ∧ e.2 ∈ nodes := mem_out.1 ((h a).subset he)

lemma OnTrack.pop (h : g.OnTrack nodes w) (v : Nat) (stack : List Nat) : g.OnTrack nodes (w.onward v [] stack) := by
  intro a
  rw [ahead_onward]
  split
  · exact nil_suffix
  · exact h a

lemma OnTrack.push (h : g.OnTrack nodes w)
    (hv : g.ahead nodes w v = e :: es) (stack : List Nat) : g.OnTrack nodes (w.onward v es stack) := by
  intro a
  rw [ahead_onward]
  split
  · next heq =>
    subst heq
    exact (suffix_cons e es).trans (hv ▸ h a)
  · exact h a

lemma walk_succ (g : Net) (nodes : List Nat) (n : Nat) (w : Walk) : g.walk nodes (n+1) w = match w.stack with
      | [] => ([],w)
      | v::back =>
        match g.ahead nodes w v with
        | [] => g.walk nodes n (w.onward v [] back)
        | e::es =>
          let (rest,w') := g.walk nodes n (w.onward v es (e.2 :: v :: back))
          (e::rest,w') := rfl

lemma walk_of_stack (h : w.stack = []) (n : Nat) : g.walk nodes n w = ([],w) := by
  cases n with
  | zero => rfl
  | succ n => simp [walk_succ,h]

lemma filter_walk (n : Nat) (hw : g.OnTrack nodes w) (a : Nat) :
    (g.walk nodes n w).1.filter (·.1 == a) ++ g.ahead nodes (g.walk nodes n w).2 a = g.ahead nodes w a := by
  induction n generalizing w with
  | zero => rfl
  | succ n ih =>
    rw [walk_succ]
    cases hs : w.stack with
    | nil => rfl
    | cons v back =>
      cases hv : g.ahead nodes w v with
      | nil =>
        simp only [hv]
        rw [ih (hw.pop v back),ahead_onward]
        split
        · next heq => rw [heq,hv]
        · rfl
      | cons e es =>
        simp only [hv]
        have hr := ih (hw.push hv (e.2 :: v :: back))
        rw [ahead_onward] at hr
        have ho : e.1 = v := (hw.mem (hv ▸ mem_cons_self)).2.1
        by_cases ha : a = v
        · subst ha
          rw [if_pos rfl] at hr
          rw [hv,filter_cons_of_pos (by simp [ho]),cons_append,hr]
        · rw [if_neg ha] at hr
          rw [filter_cons_of_neg (by simpa [ho] using fun h => ha h.symm),hr]

lemma OnTrack.walk (hw : g.OnTrack nodes w) (n : Nat) : g.OnTrack nodes (g.walk nodes n w).2 := fun a =>
  (suffix_append _ _).trans (filter_walk n hw a ▸ hw a)

lemma origin_of_mem_walk {P : Nat → Prop} (hc : ∀ v, P v → ∀ e ∈ g.out nodes v, P e.2) (n : Nat)
    (hw : g.OnTrack nodes w) (hst : ∀ v ∈ w.stack, P v) (he : e ∈ (g.walk nodes n w).1) : P e.1 := by
  induction n generalizing w with
  | zero => simp [Net.walk] at he
  | succ n ih =>
    rw [walk_succ] at he
    cases hs : w.stack with
    | nil => simp [hs] at he
    | cons v back =>
      rw [hs] at he hst
      cases hv : g.ahead nodes w v with
      | nil =>
        simp only [hv] at he
        exact ih (hw.pop v back) (fun u hu => hst u (mem_cons_of_mem _ hu)) he
      | cons f es =>
        simp only [hv] at he
        have hf := hw.mem (hv ▸ mem_cons_self)
        rcases mem_cons.1 he with rfl | he
        · rw [hf.2.1]
          exact hst v mem_cons_self
        · refine ih (hw.push hv _) (forall_mem_cons.2 ⟨?_,hst⟩) he
          exact hc v (hst v mem_cons_self) f ((hw v).subset (hv ▸ mem_cons_self))

def pending (g : Net) (nodes : List Nat) (w : Walk) : Nat :=
  ∑ a ∈ (g.edges.map Prod.fst).toFinset, (g.ahead nodes w a).length

lemma pending_pop (hv : g.ahead nodes w v = []) (stack : List Nat) :
    g.pending nodes (w.onward v [] stack) = g.pending nodes w := by
  refine Finset.sum_congr rfl fun a _ => ?_
  rw [ahead_onward]
  split
  · next heq => rw [heq,hv]
  · rfl

lemma pending_push (hw : g.OnTrack nodes w)
    (hv : g.ahead nodes w v = e :: es) (stack : List Nat) : g.pending nodes (w.onward v es stack) < g.pending nodes w := by
  have he := hw.mem (hv ▸ mem_cons_self)
  refine Finset.sum_lt_sum (fun a _ => ?_) ⟨v,?_,?_⟩
  · rw [ahead_onward]
    split
    · next heq => simp [heq,hv]
    · exact Nat.le_refl _
  · rw [mem_toFinset,← he.2.1]
    exact mem_map_of_mem he.1
  · simp [ahead_onward,hv]

lemma sum_countP_le (s : Finset Nat) (l : List (Nat × Nat)) : ∑ a ∈ s, l.countP (·.1 == a) ≤ l.length := by
  induction l with
  | nil => simp
  | cons e l ih =>
    have ho : ∑ a ∈ s, (if e.1 = a then 1 else 0) ≤ 1 := by
      rw [Finset.sum_ite_eq]
      split <;> omega
    simp only [countP_cons,beq_iff_eq,Finset.sum_add_distrib,length_cons]
    omega

lemma pending_le (hw : g.OnTrack nodes w) : g.pending nodes w ≤ g.edges.length := by
  refine (Finset.sum_le_sum fun a _ => ?_).trans (sum_countP_le _ g.edges)
  refine (hw a).length_le.trans ?_
  rw [countP_eq_length_filter]
  exact (monotone_filter_right _ fun e he => by simp_all).length_le

/-- With enough steps the nodes of the way back are left for good, and more steps change nothing. -/
lemma walk_done (hw : g.OnTrack nodes w) (hn : 2*g.pending nodes w+w.stack.length ≤ n) :
    (∀ a ∈ w.stack, g.ahead nodes (g.walk nodes n w).2 a = []) ∧ ∀ m, n ≤ m → g.walk nodes m w = g.walk nodes n w := by
  induction n generalizing w with
  | zero =>
    have hs : w.stack = [] := eq_nil_of_length_eq_zero (by omega)
    exact ⟨by simp [hs],fun m _ => by rw [walk_of_stack hs,walk_of_stack hs]⟩
  | succ n ih =>
    have hm : ∀ {m}, n+1 ≤ m → ∃ k, m = k+1 ∧ n ≤ k := fun {m} _ => ⟨m - 1,by omega,by omega⟩
    cases hs : w.stack with
    | nil => exact ⟨by simp,fun m _ => by rw [walk_of_stack hs,walk_of_stack hs]⟩
    | cons v back =>
      rw [hs,length_cons] at hn
      cases hv : g.ahead nodes w v with
      | nil =>
        have ht := hw.pop v back
        have hb : 2*g.pending nodes (w.onward v [] back)+back.length ≤ n := by
          rw [pending_pop hv]
          omega
        refine ⟨fun a ha => ?_,fun m hnm => ?_⟩
        · simp only [walk_succ,hs,hv]
          rcases mem_cons.1 ha with rfl | ha
          · -- Nothing is ahead of the node, and a walk adds nothing.
            have hnn := filter_walk n ht a
            rw [ahead_onward,if_pos rfl] at hnn
            exact (append_eq_nil_iff.1 hnn).2
          · exact (ih ht hb).1 a ha
        · obtain ⟨k,rfl,hk⟩ := hm hnm
          simp only [walk_succ,hs,hv,(ih ht hb).2 k hk]
      | cons e es =>
        have hl := pending_push hw hv (e.2 :: v :: back)
        have hb : 2*g.pending nodes (w.onward v es (e.2 :: v :: back))+(back.length+2) ≤ n := by omega
        obtain ⟨hd,hr⟩ := ih (hw.push hv _) hb
        refine ⟨fun a ha => ?_,fun m hnm => ?_⟩
        · simp only [walk_succ,hs,hv]
          exact hd a (mem_cons_of_mem _ ha)
        · obtain ⟨k,rfl,hk⟩ := hm hnm
          simp only [walk_succ,hs,hv,hr k hk]

def walkAll (g : Net) (nodes : List Nat) (n : Nat) : List Nat → Walk → List (Nat × Nat) × Walk
  | [],w => ([],w)
  | v::vs,w =>
    let (es,w) := g.walk nodes n {w with stack := [v]}
    let (rest,w) := g.walkAll nodes n vs w
    (es ++ rest,w)

def steps (g : Net) (nodes : List Nat) : Nat := 2*g.edges.length+nodes.length+2

lemma edgesInOrder_eq (g : Net) (nodes : List Nat) :
    g.edgesInOrder nodes = (g.walkAll nodes (g.steps nodes) nodes {stack := []}).1 := by
  have hf : ∀ (vs : List Nat) (es : List (Nat × Nat)) (w : Walk), vs.foldl (fun (acc : List (Nat × Nat) × Walk) v =>
        let (es,w) := g.walk nodes (g.steps nodes) {acc.2 with stack := [v]}
        (acc.1 ++ es,w)) (es,w) =
      (es ++ (g.walkAll nodes (g.steps nodes) vs w).1,(g.walkAll nodes (g.steps nodes) vs w).2) := by
    intro vs
    induction vs with
    | nil => simp [walkAll]
    | cons v vs ih =>
      intro es w
      rw [foldl_cons,ih]
      simp [walkAll]
  exact (congrArg Prod.fst (hf nodes [] {stack := []})).trans (nil_append _)

lemma OnTrack.stack (hw : g.OnTrack nodes w) (stack : List Nat) : g.OnTrack nodes {w with stack} := hw

lemma filter_walkAll (n : Nat) (vs : List Nat) (hw : g.OnTrack nodes w) (a : Nat) :
    (g.walkAll nodes n vs w).1.filter (·.1 == a) ++ g.ahead nodes (g.walkAll nodes n vs w).2 a = g.ahead nodes w a := by
  induction vs generalizing w with
  | nil => rfl
  | cons v vs ih =>
    have ht := hw.stack [v]
    simp only [walkAll,filter_append,append_assoc]
    rw [ih (ht.walk n),filter_walk n ht]
    rfl

lemma walkAll_ends (hn : 2*g.edges.length+1 ≤ n) (vs : List Nat) (hw : g.OnTrack nodes w) :
    ∀ a ∈ vs, g.ahead nodes (g.walkAll nodes n vs w).2 a = [] := by
  induction vs generalizing w with
  | nil => simp
  | cons v vs ih =>
    have ht := hw.stack [v]
    have hb := pending_le ht
    intro a ha
    simp only [walkAll]
    rcases mem_cons.1 ha with rfl | ha
    · have hf := (walk_done (n := n) ht (by simp only [length_singleton]; omega)).1 a mem_cons_self
      have hnn := filter_walkAll n vs (ht.walk n) a
      rw [hf] at hnn
      exact (append_eq_nil_iff.1 hnn).2
    · exact ih (ht.walk n) a ha

lemma walkAll_of_le (hn : 2*g.edges.length+1 ≤ n) (hm : n ≤ m) (vs : List Nat)
    (hw : g.OnTrack nodes w) : g.walkAll nodes m vs w = g.walkAll nodes n vs w := by
  induction vs generalizing w with
  | nil => rfl
  | cons v vs ih =>
    have ht := hw.stack [v]
    have hb := pending_le ht
    have hwl := (walk_done (n := n) ht (by simp only [length_singleton]; omega)).2 m hm
    simp only [walkAll,hwl,ih (ht.walk n)]

lemma mem_nodes_of_mem_walkAll (n : Nat) (hvs : ∀ v ∈ vs, v ∈ nodes)
    (hw : g.OnTrack nodes w) (he : e ∈ (g.walkAll nodes n vs w).1) : e.1 ∈ nodes := by
  induction vs generalizing w with
  | nil => simp [walkAll] at he
  | cons v vs ih =>
    have ht := hw.stack [v]
    simp only [walkAll,mem_append] at he
    rcases he with he | he
    · exact origin_of_mem_walk (fun _ _ f hf => (mem_out.1 hf).2.2) n ht
        (fun u hu => mem_singleton.1 hu ▸ hvs v mem_cons_self) he
    · exact ih (fun u hu => hvs u (mem_cons_of_mem _ hu)) (ht.walk n) he

lemma filter_edgesInOrder (ha : a ∈ nodes) : (g.edgesInOrder nodes).filter (·.1 == a) = g.out nodes a := by
  have ht := OnTrack.start g nodes []
  have hal := filter_walkAll (g.steps nodes) nodes ht a
  rw [walkAll_ends (by unfold steps; omega) nodes ht a ha,append_nil] at hal
  rw [edgesInOrder_eq,hal]
  rfl

lemma mem_edgesInOrder : e ∈ g.edgesInOrder nodes ↔ e ∈ g.edges ∧ e.1 ∈ nodes ∧ e.2 ∈ nodes := by
  constructor
  · intro he
    have ho : e.1 ∈ nodes := by
      rw [edgesInOrder_eq] at he
      exact mem_nodes_of_mem_walkAll _ (fun _ hv => hv) (OnTrack.start g nodes []) he
    have hot : e ∈ g.out nodes e.1 := by
      rw [← filter_edgesInOrder ho]
      exact mem_filter.2 ⟨he,by simp⟩
    exact ⟨(mem_out.1 hot).1,ho,(mem_out.1 hot).2.2⟩
  · rintro ⟨he,ho,hd⟩
    have hot : e ∈ (g.edgesInOrder nodes).filter (·.1 == e.1) := by
      rw [filter_edgesInOrder ho]
      exact mem_out.2 ⟨he,rfl,hd⟩
    exact (mem_filter.1 hot).1

end InfraAudit.Policy.Net
