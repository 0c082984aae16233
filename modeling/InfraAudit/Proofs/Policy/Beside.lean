import InfraAudit.Proofs.Policy.Labels

namespace InfraAudit.Policy

open List Outcome

variable {e : Ends} {i j : Nat} {w : Walk}

namespace Net

section

variable {u k : Net} {nodes nodes' : List Nat} {p : Nat → Bool} {w' : Walk}

lemma walk_inside (hc : ∀ a, p a → ∀ e ∈ u.out nodes a, p e.2) (n : Nat)
    (hw : u.OnTrack nodes w) (hst : w.stack = w'.stack) (hin : ∀ a ∈ w.stack, p a)
    (hah : ∀ a, p a → u.ahead nodes w a = k.ahead nodes' w' a) : (u.walk nodes n w).1 = (k.walk nodes' n w').1 ∧
      ∀ a, p a → u.ahead nodes (u.walk nodes n w).2 a = k.ahead nodes' (k.walk nodes' n w').2 a := by
  induction n generalizing w w' with
  | zero => exact ⟨rfl,hah⟩
  | succ n ih =>
    rw [walk_succ,walk_succ,← hst]
    cases hs : w.stack with
    | nil => exact ⟨rfl,hah⟩
    | cons v back =>
      rw [hs] at hin
      have hv := hin v mem_cons_self
      have ho : ∀ es stack, ∀ a, p a →
          u.ahead nodes (w.onward v es stack) a = k.ahead nodes' (w'.onward v es stack) a := by
        intro es stack a ha
        rw [ahead_onward,ahead_onward,hah a ha]
      simp only [← hah v hv]
      cases he : u.ahead nodes w v with
      | nil =>
        exact ih (hw.pop v back) rfl (fun a ha => hin a (mem_cons_of_mem _ ha)) (ho [] back)
      | cons e es =>
        have hn : ∀ a ∈ e.2 :: v :: back, p a :=
          forall_mem_cons.2 ⟨hc v hv e ((hw v).subset (he ▸ mem_cons_self)),hin⟩
        have hsm : (w.onward v es (e.2 :: v :: back)).stack = (w'.onward v es (e.2 :: v :: back)).stack := rfl
        have hr := ih (hw.push he (e.2 :: v :: back)) hsm hn (ho es (e.2 :: v :: back))
        exact ⟨congrArg (e :: ·) hr.1,hr.2⟩

lemma walk_outside (hapart : ∀ a, p a = false → ∀ e ∈ u.out nodes a, p e.2 = false) (n : Nat)
    (hw : u.OnTrack nodes w) (hs : ∀ a ∈ w.stack, p a = false) : (u.walk nodes n w).1.filter (fun e => p e.1) = [] ∧
      ∀ a, p a → u.ahead nodes (u.walk nodes n w).2 a = u.ahead nodes w a := by
  have ho : ∀ e ∈ (u.walk nodes n w).1, p e.1 = false := fun e he => origin_of_mem_walk hapart n hw hs he
  refine ⟨filter_eq_nil_iff.2 fun e he => by simp [ho e he],fun a ha => ?_⟩
  have hn : (u.walk nodes n w).1.filter (·.1 == a) = [] := by
    refine filter_eq_nil_iff.2 fun e he heq => ?_
    rw [← beq_iff_eq.1 heq,ho e he] at ha
    cases ha
  rw [← filter_walk n hw a,hn,nil_append]

lemma walkAll_inside (hc : ∀ a, p a → ∀ e ∈ u.out nodes a, p e.2)
    (hapart : ∀ a, p a = false → ∀ e ∈ u.out nodes a, p e.2 = false) (n : Nat) (vs : List Nat)
    (hw : u.OnTrack nodes w) (hah : ∀ a, p a → u.ahead nodes w a = k.ahead nodes' w' a) :
    (u.walkAll nodes n vs w).1.filter (fun e => p e.1) = (k.walkAll nodes' n (vs.filter p) w').1 := by
  induction vs generalizing w w' with
  | nil => rfl
  | cons v vs ih =>
    have ht := hw.stack [v]
    cases hv : p v with
    | true =>
      have hs : ∀ a ∈ [v], p a := fun a ha => mem_singleton.1 ha ▸ hv
      have hsm : ({w with stack := [v]} : Walk).stack = ({w' with stack := [v]} : Walk).stack := rfl
      have hf := walk_inside hc n ht hsm hs hah
      have hk : ((u.walk nodes n {w with stack := [v]}).1.filter fun e => p e.1) =
          (u.walk nodes n {w with stack := [v]}).1 := filter_eq_self.2 fun e he => origin_of_mem_walk hc n ht hs he
      rw [filter_cons_of_pos hv]
      simp only [walkAll,filter_append]
      rw [hk,ih (ht.walk n) hf.2,hf.1]
    | false =>
      have hs : ∀ a ∈ [v], p a = false := fun a ha => mem_singleton.1 ha ▸ hv
      have hf := walk_outside hapart n ht hs
      rw [filter_cons_of_neg (by simp [hv])]
      simp only [walkAll,filter_append,hf.1,nil_append]
      exact ih (ht.walk n) fun a ha => (hf.2 a ha).trans (hah a ha)

end

section

variable {u : Net} {nodes : List Nat} {types connected : TypeNames}

lemma mem_of_has (hvs : u.ofTypes types nodes = .ok vs) (hi : i ∈ nodes)
    (hh : types.has (u.typeOf i) = .ok true) : i ∈ vs := by
  obtain ⟨-,rfl⟩ := filterM_eq_ok.1 hvs
  refine mem_filter.2 ⟨hi,?_⟩
  have hin : types.includes (u.attributes i) = .ok true := by
    unfold TypeNames.includes
    split
    · rfl
    · unfold typeOf get? at hh
      cases hl : (u.attributes i).lookup "resource_type" with
      | some type => simpa [hl] using hh
      | none =>
        rw [hl] at hh
        cases types <;> cases hh
  rw [hin,isYes]

lemma has_of_associates (h : associates types connected a b = .ok true) :
    types.has a = .ok true ∧ connected.has b = .ok true ∨ connected.has a = .ok true ∧ types.has b = .ok true := by
  rw [associates] at h
  obtain ⟨ta,hta,h⟩ := bind_eq_ok.1 h
  have hl : ∀ {x : Result Bool}, (connected.has a >>= fun c => if c then x else pure false) = .ok true →
      connected.has a = .ok true ∧ x = .ok true := by
    intro x hx
    obtain ⟨c,hc,hx⟩ := bind_eq_ok.1 hx
    cases c with
    | true => exact ⟨hc,hx⟩
    | false => cases hx
  cases ta with
  | false => exact .inr (hl h)
  | true =>
    obtain ⟨cb,hcb,h⟩ := bind_eq_ok.1 h
    cases cb with
    | true => exact .inl ⟨hta,hcb⟩
    | false => exact .inr (hl h)

lemma mem_far_of_associates (he : u.AllEnds nodes e) (hi : i ∈ nodes) (hj : j ∈ nodes)
    (ha : associates e.types e.connected (u.typeOf i) (u.typeOf j) = .ok true) : i ∈ e.far i ∨ j ∈ e.far i := by
  obtain ⟨hu,ho⟩ := he
  unfold Ends.far
  rcases has_of_associates ha with ⟨ht,ht'⟩ | ⟨ht,ht'⟩
  · rw [if_pos (contains_iff_mem.2 (mem_of_has hu hi ht))]
    exact .inr (mem_of_has ho hj ht')
  · have hop := mem_of_has ho hi ht
    split
    · exact .inl hop
    · rw [if_pos (contains_iff_mem.2 hop)]
      exact .inr (mem_of_has hu hj ht')

end

lemma Extends.allEnds_iff {g h : Net} (he : g.Extends h) {nodes : List Nat} : h.AllEnds nodes e ↔ g.AllEnds nodes e := by
  rw [AllEnds,he.ofTypes_eq,he.ofTypes_eq]
  rfl

def part (g : Net) (vs : List Nat) : List Nat := vs.filter g.nodes.contains

def verdicts (g : Net) (o : Outcome) : Outcome := ⟨g.part o.passed,g.part o.failed⟩

def partEnds (g : Net) (e : Ends) : Ends :=
  {e with under := g.part e.under, opposite := g.part e.opposite, excluded := g.part e.excluded}

variable {g h : Net} {vs ws : List Nat}

lemma mem_part : i ∈ g.part vs ↔ i ∈ vs ∧ i ∈ g.nodes := by rw [part,mem_filter,contains_iff_mem]

lemma part_subset (g : Net) (vs : List Nat) : g.part vs ⊆ g.nodes := fun _ hi => (mem_part.1 hi).2

lemma part_append (g : Net) (vs ws : List Nat) : g.part (vs ++ ws) = g.part vs ++ g.part ws := filter_append ..

lemma part_cons_of_mem (hi : i ∈ g.nodes) (vs : List Nat) : g.part (i::vs) = i :: g.part vs :=
  filter_cons_of_pos (contains_iff_mem.2 hi)

lemma part_cons_of_not_mem (hi : i ∉ g.nodes) (vs : List Nat) : g.part (i::vs) = g.part vs :=
  filter_cons_of_neg (mt contains_iff_mem.1 hi)

lemma part_eq_self (hvs : ∀ i ∈ vs, i ∈ g.nodes) : g.part vs = vs :=
  filter_eq_self.2 fun i hi => contains_iff_mem.2 (hvs i hi)

lemma part_eq_nil (hvs : ∀ i ∈ vs, i ∉ g.nodes) : g.part vs = [] :=
  filter_eq_nil_iff.2 fun i hi => mt contains_iff_mem.1 (hvs i hi)

lemma part_eraseDups (g : Net) (vs : List Nat) : g.part vs.eraseDups = (g.part vs).eraseDups :=
  (eraseDups_filter _ vs).symm

lemma contains_part (hi : i ∈ g.nodes) (vs : List Nat) : (g.part vs).contains i = vs.contains i := by
  rw [Bool.eq_iff_iff,contains_iff_mem,contains_iff_mem,mem_part]
  exact and_iff_left hi

lemma part_filter (hpq : ∀ i ∈ vs, i ∈ g.nodes → p i = q i) : g.part (vs.filter p) = (g.part vs).filter q := by
  rw [part,part,filter_filter,filter_filter]
  refine filter_congr fun i hi => ?_
  by_cases hin : i ∈ g.nodes
  · rw [hpq i hi hin,Bool.and_comm]
  · simp [hin]

lemma part_filter_not (g : Net) (vs ws : List Nat) :
    g.part (vs.filter fun i => !ws.contains i) = (g.part vs).filter fun i => !(g.part ws).contains i :=
  part_filter fun i _ hi => by rw [contains_part hi]

lemma filterM_part {p q : Nat → Result Bool} (hpq : ∀ i ∈ vs, i ∈ g.nodes → q i = p i) (h : vs.filterM p = .ok ws) :
    (g.part vs).filterM q = .ok (g.part ws) := by
  obtain ⟨ha,rfl⟩ := filterM_eq_ok.1 h
  refine filterM_eq_ok.2 ⟨fun i hi => ?_,part_filter fun i hi hin => by rw [hpq i hi hin]⟩
  obtain ⟨hi,hin⟩ := mem_part.1 hi
  rw [hpq i hi hin]
  exact ha i hi

lemma verdicts_append (g : Net) (o o' : Outcome) : g.verdicts (o.append o') = (g.verdicts o).append (g.verdicts o') := by
  simp only [verdicts,append,part_append]

lemma verdicts_of (i : Nat) (b : Option Bool) : g.verdicts (.of i b) = if i ∈ g.nodes then .of i b else {} := by
  by_cases hi : i ∈ g.nodes
  · rcases b with _ | _ | _ <;> simp [Outcome.of,verdicts,part,hi]
  · rcases b with _ | _ | _ <;> simp [Outcome.of,verdicts,part,hi]

lemma far_partEnds (hi : i ∈ g.nodes) (e : Ends) : (g.partEnds e).far i = g.part (e.far i) := by
  simp only [Ends.far,partEnds,contains_part hi]
  split
  · rfl
  · split <;> rfl

lemma within_part {nodes : List Nat} {o : Outcome} (ho : o.Within nodes) : (g.verdicts o).Within (g.part nodes) := by
  refine ⟨fun i hi => ?_,fun i hi => ?_⟩
  · exact mem_part.2 ⟨ho.passed i (mem_part.1 hi).1,(mem_part.1 hi).2⟩
  · exact mem_part.2 ⟨ho.failed i (mem_part.1 hi).1,(mem_part.1 hi).2⟩

/-- The blocks of a net after those of another, with the edges of both. -/
def beside (g h : Net) : Net where
  vertices := g.vertices ++ h.vertices.map fun v => {v with linked := v.linked.map (g.vertices.size+·)}
  edges := g.edges ++ h.edges.map fun e => (g.vertices.size+e.1,g.vertices.size+e.2)

def Closed (g : Net) : Prop := ∀ e ∈ g.edges, e.1 ∈ g.nodes ∧ e.2 ∈ g.nodes

instance (g : Net) : Decidable g.Closed := inferInstanceAs (Decidable (∀ e ∈ g.edges, e.1 ∈ g.nodes ∧ e.2 ∈ g.nodes))

lemma vertex_beside (hi : i ∈ g.nodes) : (g.beside h).vertices.getD i default = g.vertices.getD i default := by
  have hlt : i < g.vertices.size := mem_range.1 hi
  rw [Array.getD_eq_getD_getElem?,Array.getD_eq_getD_getElem?,beside,Array.getElem?_append_left hlt]

lemma attributes_beside (hi : i ∈ g.nodes) : (g.beside h).attributes i = g.attributes i := by
  rw [attributes,attributes,vertex_beside hi]

lemma attributes_after (g h : Net) (i : Nat) : (g.beside h).attributes (g.vertices.size+i) = h.attributes i := by
  simp only [attributes,Array.getD_eq_getD_getElem?,beside]
  rw [Array.getElem?_append_right (by omega),Nat.add_sub_cancel_left,Array.getElem?_map]
  cases h.vertices[i]? <;> rfl

lemma mem_nodes_beside : i ∈ (g.beside h).nodes ↔ i ∈ g.nodes ∨ ∃ j ∈ h.nodes, i = g.vertices.size+j := by
  have hs : (g.beside h).vertices.size = g.vertices.size+h.vertices.size := by simp [beside]
  simp only [nodes,hs,mem_range]
  constructor
  · intro hi
    by_cases hlt : i < g.vertices.size
    · exact .inl hlt
    · exact .inr ⟨i - g.vertices.size,by omega,by omega⟩
  · rintro (hi | ⟨j,hj,rfl⟩)
    · omega
    · omega

lemma nodes_beside (hi : i ∈ g.nodes) : i ∈ (g.beside h).nodes := mem_nodes_beside.2 (.inl hi)

lemma part_nodes (g h : Net) : g.part (g.beside h).nodes = g.nodes := by
  have hs : (g.beside h).vertices.size = g.vertices.size+h.vertices.size := by simp [beside]
  have ho : g.part (List.range g.vertices.size) = g.nodes := part_eq_self fun _ hi => hi
  have hl : g.part ((List.range h.vertices.size).map (g.vertices.size+·)) = [] := by
    refine part_eq_nil fun i hi hin => ?_
    obtain ⟨j,-,rfl⟩ := mem_map.1 hi
    have hlt := mem_range.1 hin
    omega
  rw [nodes,hs,range_add,part_append,ho,hl,append_nil]

lemma Closed.edges_beside (hg : g.Closed) {e : Nat × Nat} (he : e ∈ (g.beside h).edges) :
    e ∈ g.edges ∧ e.1 ∈ g.nodes ∧ e.2 ∈ g.nodes ∨ e.1 ∉ g.nodes ∧ e.2 ∉ g.nodes := by
  rcases mem_append.1 he with he | he
  · exact .inl ⟨he,hg e he⟩
  · obtain ⟨f,-,rfl⟩ := mem_map.1 he
    refine .inr ⟨fun hin => ?_,fun hin => ?_⟩
    all_goals
      have hlt := mem_range.1 hin
      omega

lemma Closed.out_beside (hg : g.Closed) (hi : i ∈ g.nodes) (nodes : List Nat) :
    (g.beside h).out nodes i = g.out (g.part nodes) i := by
  have hl : ((h.edges.map fun e => (g.vertices.size+e.1,g.vertices.size+e.2)).filter fun e =>
      e.1 == i && nodes.contains e.2) = [] := by
    refine filter_eq_nil_iff.2 fun e he => ?_
    obtain ⟨f,-,rfl⟩ := mem_map.1 he
    have hlt := mem_range.1 hi
    have hne : g.vertices.size+f.1 ≠ i := by omega
    simp [hne]
  have ho : (g.edges.filter fun e => e.1 == i && nodes.contains e.2) =
      g.edges.filter fun e => e.1 == i && (g.part nodes).contains e.2 :=
    filter_congr fun e he => by rw [contains_part (hg e he).2]
  rw [out,out,beside,filter_append]
  exact (congrArg₂ (· ++ ·) ho hl).trans (append_nil _)

/-- Nets of labelled blocks without a common id or hash, the first without an edge or link that leads elsewhere. -/
structure Apart (g h : Net) : Prop where
  closed : g.Closed
  links : ∀ i ∈ g.nodes, ∀ j, (g.vertices.getD i default).linked = some j → j ∈ g.nodes
  left : g.Labelled
  right : h.Labelled
  ids : ∀ i ∈ g.nodes, ∀ j ∈ h.nodes, g.text? i "id_" ≠ h.text? j "id_"
  hashes : ∀ i ∈ g.nodes, ∀ j ∈ h.nodes, g.text? i "hash" ≠ h.text? j "hash"

lemma text?_beside (hi : i ∈ g.nodes) (key : String) : (g.beside h).text? i key = g.text? i key := by
  rw [text?,text?,get?,get?,attributes_beside hi]

lemma text?_after (g h : Net) (i : Nat) (key : String) :
    (g.beside h).text? (g.vertices.size+i) key = h.text? i key := by
  rw [text?,text?,get?,get?,attributes_after]

lemma Apart.labelled (hapart : g.Apart h) : (g.beside h).Labelled := by
  refine ⟨fun i hi key hk => ?_,fun i hi j hj hid => ?_⟩
  · rcases mem_nodes_beside.1 hi with hin | ⟨i',hin,rfl⟩
    · rw [text?_beside hin]
      exact hapart.left.texts i hin key hk
    · rw [text?_after]
      exact hapart.right.texts i' hin key hk
  · rcases mem_nodes_beside.1 hi with hin | ⟨i',hin,rfl⟩ <;> rcases mem_nodes_beside.1 hj with hjn | ⟨j',hjn,rfl⟩
    · rw [text?_beside hin,text?_beside hjn] at hid
      exact hapart.left.single i hin j hjn hid
    · rw [text?_beside hin,text?_after] at hid
      exact (hapart.ids i hin j' hjn hid).elim
    · rw [text?_after,text?_beside hjn] at hid
      exact (hapart.ids j hjn i' hin hid.symm).elim
    · rw [text?_after,text?_after] at hid
      rw [hapart.right.single i' hin j' hjn hid]

lemma Apart.hash_ne (hapart : g.Apart h) (hi : i ∈ g.nodes) (hj : j ∈ (g.beside h).nodes) (hjn : j ∉ g.nodes) :
    ((g.beside h).label "hash" j == (g.beside h).label "hash" i) = false := by
  refine Bool.eq_false_iff.2 fun heq => ?_
  have hu := hapart.labelled
  rcases mem_nodes_beside.1 hj with hj' | ⟨j,hj',rfl⟩
  · exact hjn hj'
  obtain ⟨s,hs⟩ := hu.texts _ hj "hash" (by simp)
  have hsm := text?_of_eq heq ((hu.text?_label hj (by simp)).trans hs)
  rw [hu.text?_label (nodes_beside hi) (by simp),text?_beside hi] at hsm
  rw [text?_after] at hs
  exact hapart.hashes i hi j hj' (hsm.trans hs.symm)

/-- What runs have made of a net, and of the net with another beside it. -/
structure Continued (g h k u : Net) : Prop where
  left : g.Extends k
  whole : (g.beside h).Extends u

namespace Continued

variable {k u : Net} (hc : Continued g h k u) {nodes : List Nat}

include hc

lemma own_eq (hk : key ∈ ownKeys) (hi : i ∈ g.nodes) : k.get? i key = u.get? i key := by
  rw [hc.left.own hk,hc.whole.own hk,get?,get?,attributes_beside hi]

lemma typeOf_eq (hi : i ∈ g.nodes) : k.typeOf i = u.typeOf i := by rw [typeOf,typeOf,hc.own_eq (by decide) hi]

lemma concerns_eq (types : TypeNames) (hi : i ∈ g.nodes) : k.concerns types i = u.concerns types i := by
  have hb := hc.own_eq (show "block_type_" ∈ ownKeys by decide) hi
  simp only [concerns,isJudged,hc.typeOf_eq hi,hb]

lemma isOutput_eq (hi : i ∈ g.nodes) : k.isOutput i = u.isOutput i := by
  rw [isOutput,isOutput,hc.own_eq (by decide) hi]

lemma ofTypes_part {types : TypeNames} (hvs : u.ofTypes types nodes = .ok vs) :
    k.ofTypes types (g.part nodes) = .ok (g.part vs) :=
  filterM_part (fun _ _ hi => includes_congr (fun _ hk => hc.own_eq hk hi) types) hvs

lemma out_eq (hg : g.Closed) (hi : i ∈ g.nodes) (nodes : List Nat) : u.out nodes i = k.out (g.part nodes) i := by
  rw [out,out,hc.whole.edges,hc.left.edges]
  exact hg.out_beside hi nodes

lemma mem_nodes_iff (hg : g.Closed) {e : Nat × Nat} (he : e ∈ u.out nodes i) : e.2 ∈ g.nodes ↔ i ∈ g.nodes := by
  obtain ⟨hed,rfl,-⟩ := mem_out.1 he
  rcases hg.edges_beside (hc.whole.edges ▸ hed) with ⟨-,hin,hin'⟩ | ⟨hn,hn'⟩
  · exact iff_of_true hin' hin
  · exact iff_of_false hn' hn

lemma edgesInOrder_eq (hg : g.Closed) (nodes : List Nat) :
    (u.edgesInOrder nodes).filter (fun e => g.nodes.contains e.1) = k.edgesInOrder (g.part nodes) := by
  have hcn : ∀ {a} {e : Nat × Nat}, e ∈ u.out nodes a → g.nodes.contains e.2 = g.nodes.contains a := fun he => by
    rw [Bool.eq_iff_iff,contains_iff_mem,contains_iff_mem,hc.mem_nodes_iff hg he]
  have hcl : ∀ a, g.nodes.contains a = true → ∀ e ∈ u.out nodes a, g.nodes.contains e.2 = true := fun a ha e he =>
    (hcn he).trans ha
  have hapart : ∀ a, g.nodes.contains a = false → ∀ e ∈ u.out nodes a, g.nodes.contains e.2 = false := fun a ha e he =>
    (hcn he).trans ha
  have hs : ∀ a, g.nodes.contains a = true →
      u.ahead nodes {stack := []} a = k.ahead (g.part nodes) {stack := []} a := fun a ha =>
    hc.out_eq hg (contains_iff_mem.1 ha) nodes
  rw [Net.edgesInOrder_eq,Net.edgesInOrder_eq,walkAll_inside hcl hapart (u.steps nodes) nodes (.start u nodes []) hs]
  -- The whole net leaves more steps than the walk needs.
  have hst : k.steps (g.part nodes) ≤ u.steps nodes := by
    have hed : k.edges.length ≤ u.edges.length := by
      rw [hc.left.edges,hc.whole.edges,beside,length_append]
      omega
    have hn : (g.part nodes).length ≤ nodes.length := length_filter_le ..
    unfold steps
    omega
  rw [walkAll_of_le (by unfold steps; omega) hst _ (.start k _ [])]
  rfl

variable (hapart : g.Apart h)

include hapart

lemma isAmong_left (i : Nat) (vs : List Nat) : k.isAmong i vs = vs.contains i :=
  hc.left.isAmong_eq hapart.left.identified.toldApart i vs

lemma isAmong_whole (i : Nat) (vs : List Nat) : u.isAmong i vs = vs.contains i :=
  hc.whole.isAmong_eq hapart.labelled.identified.toldApart i vs

lemma ends_part
    (he : u.ends types connected nodes exclude = .ok e) :
    k.ends types connected (g.part nodes) (g.part exclude) = .ok (g.partEnds e) := by
  rw [ends] at he
  obtain ⟨under,hu,he⟩ := bind_eq_ok.1 he
  obtain ⟨opposite,ho,he⟩ := bind_eq_ok.1 he
  cases he
  rw [ends,hc.ofTypes_part hu,hc.ofTypes_part ho]
  have hex : g.part ((under ++ opposite).filter (u.isAmong · exclude)) =
      (g.part under ++ g.part opposite).filter (k.isAmong · (g.part exclude)) := by
    rw [← part_append]
    refine part_filter fun i _ hi => ?_
    rw [hc.isAmong_whole hapart,hc.isAmong_left hapart,contains_part hi]
  simp only [partEnds,hex]
  rfl

lemma concluded_part (link : Link) (e : Ends) (o : Outcome) :
    g.verdicts (u.concluded link e o) = k.concluded link (g.partEnds e) (g.verdicts o) := by
  cases link <;>
    simp only [concluded,verdicts,partEnds,Outcome.swap,hc.isAmong_whole hapart,hc.isAmong_left hapart,part_append,
      part_filter_not]

lemma alongEdge_part {all : List Nat}
    (he : (g.beside h).AllEnds all e) (hn : nodes ⊆ all) (hed : (i,j) ∈ g.edges) (hi : i ∈ nodes)
    {o : Outcome} {b : Bool} (ha : u.alongEdge e nodes i j = .ok (o,b)) :
    k.alongEdge (g.partEnds e) (g.part nodes) i j = .ok (o,b) := by
  obtain ⟨hin,hjn⟩ := hapart.closed _ hed
  rw [alongEdge_of_settled ((hapart.labelled.of_extends hc.whole).identified.settled e) (.refl u)] at ha
  rw [alongEdge_of_settled ((hapart.left.of_extends hc.left).identified.settled _) (.refl k)]
  unfold edgeSays at ha ⊢
  rw [far_partEnds hin,contains_part hjn,hc.isOutput_eq hjn,← hc.out_eq hapart.closed hjn]
  by_cases hem : (e.far i).isEmpty
  · rw [if_pos hem] at ha
    have hnn : e.far i = [] := isEmpty_iff.1 hem
    rw [hnn]
    exact ha
  rw [if_neg hem] at ha
  by_cases hfr : (e.far i).contains j
  · have hp : ¬(g.part (e.far i)).isEmpty := fun hnn => by
      have hm : j ∈ g.part (e.far i) := mem_part.2 ⟨contains_iff_mem.1 hfr,hjn⟩
      simp [isEmpty_iff.1 hnn] at hm
    rw [if_pos hfr] at ha
    rw [if_neg hp,if_pos hfr]
    simpa only [partEnds,contains_part hin,contains_part hjn] using ha
  rw [if_neg hfr] at ha
  rw [if_neg hfr]
  by_cases ho : u.isOutput j
  · rw [if_pos ho] at ha
    rw [if_pos ho]
    cases heg : u.out nodes j with
    | nil =>
      rw [heg] at ha
      split <;> exact ha
    | cons edge rest =>
      obtain ⟨j',w⟩ := edge
      rw [heg] at ha
      have hf : (j',w) ∈ u.out nodes j := heg ▸ mem_cons_self
      have hw : w ∈ nodes := (mem_out.1 hf).2.2
      have hwn : w ∈ g.nodes := (hc.mem_nodes_iff hapart.closed hf).2 hjn
      simp only [hc.typeOf_eq hin,hc.typeOf_eq hwn]
      obtain ⟨found,hfn,ha⟩ := bind_eq_ok.1 ha
      split
      · next hnn =>
        cases found with
        | false => exact ha
        | true =>
          have hen := mem_far_of_associates (hc.whole.allEnds_iff.2 he) (hn hi) (hn hw) hfn
          rw [List.isEmpty_iff] at hnn
          rcases hen with hm | hm
          · simpa [hnn] using mem_part.2 ⟨hm,hin⟩
          · simpa [hnn] using mem_part.2 ⟨hm,hwn⟩
      · exact bind_eq_ok.2 ⟨found,hfn,ha⟩
  · rw [if_neg ho] at ha
    rw [if_neg ho]
    split <;> exact ha

end Continued

end Net

end InfraAudit.Policy
