import InfraAudit.Proofs.Policy.Consistency

/-!
Blocks with labels: an id, a file and a hash, and no id twice. Runs compare labels where they mean blocks, so what they do
with lists of blocks comes down to plain operations on the lists.
-/

namespace InfraAudit.Policy

open List Net

variable {c : Condition} {e : Ends} {passed : List Nat} {i : Nat}

section

variable {α : Type} [BEq α]

lemma induction_without {motive : List α → Prop} (nil : motive [])
    (cons : ∀ a l, motive (l.filter fun b => !b == a) → motive (a::l)) (l : List α) : motive l := by
  induction hn : l.length using Nat.strongRecOn generalizing l with
  | ind n ih =>
    cases l with
    | nil => exact nil
    | cons a l =>
      have hl : (l.filter fun b => !b == a).length < n := by
        have hle := length_filter_le (fun b => !b == a) l
        simp only [length_cons] at hn
        omega
      exact cons a l (ih _ hl _ rfl)

variable [LawfulBEq α]

lemma eraseDups_filter (p : α → Bool) (l : List α) : (l.filter p).eraseDups = l.eraseDups.filter p := by
  induction l using induction_without with
  | nil => rfl
  | cons a l ih =>
    rw [eraseDups_cons,filter_cons,filter_cons]
    split
    · rw [eraseDups_cons,← ih,filter_filter,filter_filter]
      simp only [Bool.and_comm]
    · next hp =>
      -- The first member is gone, so that removing its copies changes nothing.
      rw [← ih,filter_filter]
      congr 1
      refine filter_congr fun b _ => ?_
      by_cases hb : b = a
      · simp [hb,hp]
      · simp [hb]

def SameOnce (l l' : List α) : Prop := l.eraseDups = l'.eraseDups

namespace SameOnce

variable {l l' m m' : List α}

lemma mem_iff (h : SameOnce l l') (a : α) : a ∈ l ↔ a ∈ l' := by rw [← mem_eraseDups,h,mem_eraseDups]

lemma contains_eq (h : SameOnce l l') (a : α) : l.contains a = l'.contains a := by
  rw [Bool.eq_iff_iff,contains_iff_mem,contains_iff_mem,h.mem_iff]

lemma filter (h : SameOnce l l') (p : α → Bool) : SameOnce (l.filter p) (l'.filter p) := by
  rw [SameOnce,eraseDups_filter,eraseDups_filter,h]

lemma append (h : SameOnce l l') (hm : SameOnce m m') : SameOnce (l ++ m) (l' ++ m') := by
  have hr : m.removeAll l = m.filter fun a => !l'.contains a := by
    simp only [List.removeAll,h.contains_eq]
  have hr' : m'.removeAll l' = m'.filter fun a => !l'.contains a := rfl
  rw [SameOnce,eraseDups_append,eraseDups_append,h,hr,hr',eraseDups_filter,eraseDups_filter,hm]

lemma eraseDups (l : List α) : SameOnce l l.eraseDups := by
  induction l using induction_without with
  | nil => rfl
  | cons a l ih =>
    rw [SameOnce,eraseDups_cons,eraseDups_cons,← eraseDups_filter,filter_filter]
    simp only [Bool.and_self]
    exact congrArg (a :: ·) ih

end SameOnce

end

namespace Net

structure Labelled (g : Net) : Prop where
  texts : ∀ i ∈ g.nodes, ∀ key ∈ ["id_","file_path_","hash"], ∃ s, g.text? i key = some s
  single : ∀ i ∈ g.nodes, ∀ j ∈ g.nodes, g.text? i "id_" = g.text? j "id_" → i = j

lemma labelled_of_isSome {g : Net} (h : (∀ i ∈ g.nodes, ∀ key ∈ ["id_","file_path_","hash"], (g.text? i key).isSome) ∧
    ∀ i ∈ g.nodes, ∀ j ∈ g.nodes, g.text? i "id_" = g.text? j "id_" → i = j) : g.Labelled :=
  ⟨fun i hi key hk => Option.isSome_iff_exists.1 (h.1 i hi key hk),h.2⟩

def label (g : Net) (key : String) (i : Nat) : Value := (g.get? i key).getD .null

def namesake (g : Net) (i j : Nat) : Bool :=
  g.label "id_" j == g.label "id_" i && g.label "file_path_" j == g.label "file_path_" i

namespace Labelled

variable {g h : Net} {i : Nat} {vs ws : List Nat}

variable (hg : g.Labelled)

include hg

lemma identified : g.Identified := by
  refine ⟨fun i hi key hk => hg.texts i hi key ?_,fun i hi j hj hid _ => hg.single i hi j hj hid⟩
  have hs : ∀ k ∈ ["id_","file_path_"], k ∈ ["id_","file_path_","hash"] := by decide
  exact hs key hk

section

variable (hi : i ∈ g.nodes) (hk : key ∈ ["id_","file_path_","hash"])

include hi hk

lemma get_eq : g.get i key = .ok (g.label key i) := by
  obtain ⟨s,hs⟩ := hg.texts i hi key hk
  obtain ⟨v,hv,-⟩ := Option.bind_eq_some_iff.1 hs
  simp [get,label,hv]

lemma text?_label : (g.label key i).text? = g.text? i key := (text?_of_get (hg.get_eq hi hk)).symm

lemma eq_label : Value.eq (g.label key i) (g.label key i) := by
  obtain ⟨s,hs⟩ := hg.texts i hi key hk
  rw [← hg.text?_label hi hk] at hs
  exact eq_of_text? hs hs

end

lemma eq_of_ids (hi : i ∈ g.nodes) (hj : j ∈ g.nodes)
    (heq : Value.eq (g.label "id_" i) (g.label "id_" j)) : i = j := by
  obtain ⟨s,hs⟩ := hg.texts i hi "id_" (by simp)
  refine hg.single i hi j hj ?_
  rw [hs,← hg.text?_label hj (by simp)]
  rw [← hg.text?_label hi (by simp)] at hs
  exact (text?_of_eq heq hs).symm

lemma elem_ids (hi : i ∈ g.nodes) (hvs : ∀ j ∈ vs, j ∈ g.nodes) :
    (g.label "id_" i).elem (vs.map (g.label "id_")) = vs.contains i := by
  rw [Bool.eq_iff_iff,contains_iff_mem]
  constructor
  · intro he
    obtain ⟨w,hw,heq⟩ := any_eq_true.1 he
    obtain ⟨j,hj,rfl⟩ := mem_map.1 hw
    rwa [hg.eq_of_ids hi (hvs j hj) heq]
  · intro hm
    exact any_eq_true.2 ⟨_,mem_map_of_mem hm,hg.eq_label hi (by simp)⟩

lemma mapM_get_eq (hk : key ∈ ["id_","file_path_","hash"]) (hvs : ∀ j ∈ vs, j ∈ g.nodes) :
    vs.mapM (fun i => g.get i key) = .ok (vs.map (g.label key)) := by
  rw [mapM_eq_ok,forall₂_map_right_iff]
  exact forall₂_same.2 fun i hi => hg.get_eq (hvs i hi) hk

lemma ids_eq (hvs : ∀ j ∈ vs, j ∈ g.nodes) : g.ids vs = .ok (vs.map (g.label "id_")) := hg.mapM_get_eq (by simp) hvs

lemma withoutIds_eq (hvs : ∀ j ∈ vs, j ∈ g.nodes) (hws : ∀ j ∈ ws, j ∈ g.nodes) :
    g.withoutIds vs (ws.map (g.label "id_")) = .ok (vs.filter fun i => !ws.contains i) := by
  have ha : ∀ i ∈ vs, (do return !(← g.get i "id_").elem (ws.map (g.label "id_")) : Result Bool) =
      .ok (!ws.contains i) := by
    intro i hi
    rw [hg.get_eq (hvs i hi) (by simp),← hg.elem_ids (hvs i hi) hws]
    rfl
  refine filterM_eq_ok.2 ⟨fun i hi => ⟨_,ha i hi⟩,filter_congr fun i hi => ?_⟩
  rw [ha i hi,isYes]

lemma notPassed_eq (hvs : ∀ j ∈ vs, j ∈ g.nodes) (hws : ∀ j ∈ ws, j ∈ g.nodes) :
    g.notPassed vs ws = .ok (vs.filter fun i => !ws.contains i) := by
  rw [notPassed,hg.ids_eq hws]
  refine filterM_eq_ok.2 ?_
  have ha : ∀ i ∈ vs, (do
      if !(← g.get i "id_").elem (ws.map (g.label "id_")) then return true
      let files ← ws.mapM fun p => g.get p "file_path_"
      return !(← g.get i "file_path_").elem files : Result Bool) = .ok (!ws.contains i) := by
    intro i hi
    rw [hg.get_eq (hvs i hi) (by simp),hg.get_eq (hvs i hi) (by simp),hg.mapM_get_eq (by simp) hws]
    simp only [ok_bind,pure_eq_ok,hg.elem_ids (hvs i hi) hws]
    by_cases hm : i ∈ ws
    · have hf : (g.label "file_path_" i).elem (ws.map (g.label "file_path_")) :=
        any_eq_true.2 ⟨_,mem_map_of_mem hm,hg.eq_label (hvs i hi) (by simp)⟩
      simp [hm,hf]
    · simp [hm]
  refine ⟨fun i hi => ⟨_,ha i hi⟩,filter_congr fun i hi => ?_⟩
  exact (congrArg isYes (ha i hi)).symm

lemma namesake_eq (hi : i ∈ g.nodes) (hj : j ∈ g.nodes) : g.namesake i j = (j == i) := by
  rw [namesake]
  by_cases hji : j = i
  · subst hji
    have hid : (g.label "id_" j == g.label "id_" j) := hg.eq_label hj (by simp)
    have hf : (g.label "file_path_" j == g.label "file_path_" j) := hg.eq_label hj (by simp)
    simp [hid,hf]
  · have hid : (g.label "id_" j == g.label "id_" i) = false := Bool.eq_false_iff.2 fun heq => hji (hg.eq_of_ids hj hi heq)
    simp [hid,hji]

lemma distinct_eq_append (hws : ∀ j ∈ ws, j ∈ g.nodes) (hvs : ∀ j ∈ vs, j ∈ g.nodes) :
    g.distinct (ws.map fun j => ((g.label "id_" j,g.label "file_path_" j),j)) vs =
      .ok (ws ++ (vs.filter fun i => !ws.contains i).eraseDups) := by
  induction vs generalizing ws with
  | nil =>
    rw [distinct]
    simp [Function.comp_def]
  | cons i vs ih =>
    obtain ⟨hi,hvs⟩ := forall_mem_cons.1 hvs
    have hs : ∀ j ∈ ws, g.namesake i j = (j == i) := fun j hj => hg.namesake_eq hi (hws j hj)
    rw [distinct,hg.get_eq hi (by simp),hg.get_eq hi (by simp)]
    simp only [ok_bind,any_map,map_map,Function.comp_def,← namesake.eq_def]
    by_cases hm : i ∈ ws
    · have ha : ws.any (g.namesake i ·) := any_eq_true.2 ⟨i,hm,by rw [hs i hm,beq_self_eq_true]⟩
      have hmp : (ws.map fun j => ((g.label "id_" j,g.label "file_path_" j),if g.namesake i j then i else j)) =
          ws.map fun j => ((g.label "id_" j,g.label "file_path_" j),j) := by
        refine map_congr_left fun j hj => ?_
        rw [hs j hj]
        by_cases hji : j = i
        · simp [hji]
        · simp [hji]
      rw [if_pos ha,hmp,ih hws hvs,filter_cons]
      simp [hm]
    · have ha : ws.any (g.namesake i ·) = false := by
        rw [any_eq_false]
        intro j hj
        rw [hs j hj,beq_iff_eq]
        rintro rfl
        exact hm hj
      have hr := ih (forall_mem_append.2 ⟨hws,forall_mem_singleton.2 hi⟩) hvs
      rw [map_append] at hr
      simp only [ha,Bool.false_eq_true,if_false,map_cons,map_nil] at hr ⊢
      rw [hr,filter_cons,if_pos (by simpa using hm),eraseDups_cons,filter_filter,append_assoc,singleton_append]
      have hf : (vs.filter fun j => !(ws ++ [i]).contains j) = vs.filter fun j => (!j == i) && !ws.contains j := by
        refine filter_congr fun j _ => ?_
        by_cases hji : j = i
        · simp [hji]
        · simp [hji]
      rw [hf]

lemma distinct_eq (hvs : ∀ j ∈ vs, j ∈ g.nodes) : g.distinct [] vs = .ok vs.eraseDups := by
  simpa using hg.distinct_eq_append (forall_mem_nil _) hvs

lemma tallied_eq (hvs : ∀ j ∈ vs, j ∈ g.nodes) (hws : ∀ j ∈ ws, j ∈ g.nodes) (tallies : List Tally) :
    g.tallied ws vs tallies =
      .ok ((vs.filter fun i => !ws.contains i).foldl (fun ts i => Tally.add (g.label "hash" i) i ts) tallies) := by
  rw [tallied,hg.ids_eq hws]
  simp only [ok_bind]
  induction vs generalizing tallies with
  | nil => rfl
  | cons i vs ih =>
    obtain ⟨hi,hvs⟩ := forall_mem_cons.1 hvs
    rw [foldlM_cons,hg.get_eq hi (by simp),hg.get_eq hi (by simp),filter_cons]
    simp only [hg.elem_ids hi hws,ok_bind,pure_eq_ok] at ih ⊢
    by_cases hm : i ∈ ws
    · simpa [hm] using ih hvs tallies
    · simpa [hm] using ih hvs (Tally.add (g.label "hash" i) i tallies)

lemma of_extends (he : g.Extends h) : h.Labelled := by
  have ht : ∀ i, ∀ key ∈ ["id_","file_path_","hash"], h.text? i key = g.text? i key := by
    intro i key hk
    have ho : ∀ k ∈ ["id_","file_path_","hash"], k ∈ ownKeys := by decide
    rw [text?,text?,he.own (ho key hk)]
  refine ⟨fun i hi key hk => ?_,fun i hi j hj hid => ?_⟩
  · rw [ht i key hk]
    exact hg.texts i (he.nodes_eq ▸ hi) key hk
  · rw [ht i _ (by simp),ht j _ (by simp)] at hid
    exact hg.single i (he.nodes_eq ▸ hi) j (he.nodes_eq ▸ hj) hid

end Labelled

lemma Extends.label_eq {g h : Net} (he : g.Extends h) (hk : key ∈ ownKeys) : h.label key = g.label key := by
  funext i
  rw [label,label,he.own hk]

end Net

namespace Tally

def entries (tallies : List Tally) : List (Value × Nat) := tallies.map fun t => (t.digest,t.vertex)

def enter (digest : Value) (i : Nat) (es : List (Value × Nat)) : List (Value × Nat) :=
  if es.any (·.1 == digest) then es else es ++ [(digest,i)]

lemma entries_add (digest : Value) (i : Nat) (tallies : List Tally) :
    entries (add digest i tallies) = enter digest i (entries tallies) := by
  induction tallies with
  | nil => rfl
  | cons t ts ih =>
    cases hs : t.digest == digest with
    | true => simp [add,entries,enter,hs]
    | false =>
      have hc : ∀ e es, (e.1 == digest) = false → enter digest i (e::es) = e :: enter digest i es := by
        intro e es he
        simp only [enter,any_cons,he,Bool.false_or]
        split <;> rfl
      rw [add,if_neg (by simp [hs])]
      exact (congrArg ((t.digest,t.vertex) :: ·) ih).trans (hc _ _ hs).symm

lemma any_enter (digest d : Value) (i : Nat) (h : es.any (·.1 == d)) : (enter digest i es).any (·.1 == d) := by
  unfold enter
  split
  · exact h
  · rw [any_append,h,Bool.true_or]

lemma foldl_enter_filter (f : Nat → Value) (a : Nat) (h : es.any (·.1 == f a)) (l : List Nat) :
    l.foldl (fun es i => enter (f i) i es) es = (l.filter fun i => !i == a).foldl (fun es i => enter (f i) i es) es := by
  induction l generalizing es with
  | nil => rfl
  | cons i l ih =>
    rw [foldl_cons,ih (any_enter _ _ _ h)]
    by_cases hi : i = a
    · subst hi
      simp [enter,h]
    · simp [hi]

lemma foldl_enter_eraseDups (f : Nat → Value) (es : List (Value × Nat)) {l : List Nat} (hl : ∀ i ∈ l, (f i == f i)) :
    l.foldl (fun es i => enter (f i) i es) es = l.eraseDups.foldl (fun es i => enter (f i) i es) es := by
  induction l using induction_without generalizing es with
  | nil => rfl
  | cons a l ih =>
    have he : (enter (f a) a es).any (·.1 == f a) := by
      unfold enter
      split
      · assumption
      · simp [hl a mem_cons_self]
    rw [eraseDups_cons,foldl_cons,foldl_cons,foldl_enter_filter f a he]
    exact ih _ fun i hi => hl i (mem_cons_of_mem _ (mem_of_mem_filter hi))

lemma entries_foldl (f : Nat → Value) (l : List Nat) (ts : List Tally) :
    entries (l.foldl (fun ts i => add (f i) i ts) ts) = l.foldl (fun es i => enter (f i) i es) (entries ts) := by
  induction l generalizing ts with
  | nil => rfl
  | cons i l ih => rw [foldl_cons,foldl_cons,ih,entries_add]

lemma entries_foldl_add {f : Nat → Value} {l l' : List Nat} (hs : SameOnce l l') (hl : ∀ i ∈ l, (f i == f i))
    {ts' : List Tally} (hts : entries ts = entries ts') :
    entries (l.foldl (fun ts i => add (f i) i ts) ts) = entries (l'.foldl (fun ts i => add (f i) i ts) ts') := by
  have hl' : ∀ i ∈ l', (f i == f i) := fun i hi => hl i ((hs.mem_iff i).2 hi)
  rw [entries_foldl,entries_foldl,hts,foldl_enter_eraseDups f _ hl,foldl_enter_eraseDups f _ hl',hs]

end Tally

namespace Net

variable {g : Net} {nodes failed vs : List Nat} {o : Outcome}

lemma forall_alongEdge {P : Nat → Prop} {u v : Nat} {b : Bool} (hu : P u) (hv : P v)
    (ho : ∀ f ∈ g.out nodes v, P f.2) (h : g.alongEdge e nodes u v = .ok (o,b)) :
    (∀ i ∈ o.passed, P i) ∧ ∀ i ∈ o.failed, P i := by
  rcases alongEdge_eq_ok h with rfl | ⟨rfl,-⟩ | ⟨w,rfl,hw⟩
  · simp
  · simp [hu,hv]
  · rcases hw with rfl | hw
    · simp [hu,hv]
    · simp [hu,forall_mem_map.2 ho w hw]

lemma within_alongEdge (hu : u ∈ nodes) (hv : v ∈ nodes)
    (h : g.alongEdge e nodes u v = .ok (o,b)) : o.Within nodes := by
  obtain ⟨hp,hfl⟩ := forall_alongEdge hu hv (fun f hf => (mem_out.1 hf).2.2) h
  exact ⟨hp,hfl⟩

lemma within_concluded (g : Net) (link : Link) (he : ∀ i ∈ e.under ++ e.opposite, i ∈ nodes)
    (ho : o.Within nodes) : (g.concluded link e o).Within nodes := by
  have hl : (g.concluded .linked e o).Within nodes :=
    ⟨ho.passed,forall_mem_append.2 ⟨ho.failed,fun i hi => he i (mem_of_mem_filter hi)⟩⟩
  cases link with
  | linked => exact hl
  | notLinked => exact ⟨hl.failed,hl.passed⟩
  | oneLinked => exact ⟨hl.passed,fun i hi => hl.failed i (mem_of_mem_filter hi)⟩

lemma mem_of_ofTypes (h : g.ofTypes types nodes = .ok vs) (hi : i ∈ vs) : i ∈ nodes := by
  obtain ⟨-,rfl⟩ := filterM_eq_ok.1 h
  exact mem_of_mem_filter hi

lemma sublist_of_reduced (h : g.reduced d g.nodes = .ok nodes) : nodes.Sublist g.nodes := by
  obtain ⟨members,-,h⟩ := bind_eq_ok.1 h
  split at h
  · cases h
    exact Sublist.refl _
  · cases h
    exact filter_sublist

lemma subset_of_withoutIds {vs' : List Nat} {ids : List Value} (h : g.withoutIds vs ids = .ok vs') : vs' ⊆ vs := by
  obtain ⟨-,rfl⟩ := filterM_eq_ok.1 h
  exact filter_subset_self _

lemma subset_of_notPassed (h : g.notPassed failed passed = .ok failed') : failed' ⊆ failed := by
  obtain ⟨ids,-,h⟩ := bind_eq_ok.1 h
  obtain ⟨-,rfl⟩ := filterM_eq_ok.1 h
  exact filter_subset_self _

def AllEnds (g : Net) (nodes : List Nat) (e : Ends) : Prop :=
  g.ofTypes e.types nodes = .ok e.under ∧ g.ofTypes e.connected nodes = .ok e.opposite

lemma allEnds_of_ends (he : g.ends types connected nodes exclude = .ok e) : g.AllEnds nodes e := by
  rw [ends] at he
  obtain ⟨under,hu,he⟩ := bind_eq_ok.1 he
  obtain ⟨opposite,ho,he⟩ := bind_eq_ok.1 he
  cases he
  exact ⟨hu,ho⟩

lemma within_ends (he : g.ends types connected nodes exclude = .ok e) (hi : i ∈ e.under ++ e.opposite) : i ∈ nodes := by
  obtain ⟨hu,ho⟩ := allEnds_of_ends he
  rcases mem_append.1 hi with hi | hi
  · exact mem_of_ofTypes hu hi
  · exact mem_of_ofTypes ho hi

lemma within_add (hi : i ∈ nodes) (hts : ∀ t ∈ ts, t.vertex ∈ nodes) :
    ∀ t ∈ Tally.add digest i ts, t.vertex ∈ nodes := by
  induction ts with
  | nil => exact forall_mem_singleton.2 hi
  | cons t ts ih =>
    obtain ⟨ht,hts⟩ := forall_mem_cons.1 hts
    rw [Tally.add]
    split
    · exact forall_mem_cons.2 ⟨ht,hts⟩
    · exact forall_mem_cons.2 ⟨ht,ih hts⟩

lemma within_tallied (h : g.tallied passed failed ts = .ok ts')
    (hf : ∀ i ∈ failed, i ∈ nodes) (hts : ∀ t ∈ ts, t.vertex ∈ nodes) : ∀ t ∈ ts', t.vertex ∈ nodes := by
  obtain ⟨ids,-,hfl⟩ := bind_eq_ok.1 h
  refine of_foldlM (fun ts => ∀ t ∈ ts, t.vertex ∈ nodes) (fun ts i ts' hi hts hm => ?_) hts hfl
  obtain ⟨id,-,hm⟩ := bind_eq_ok.1 hm
  split at hm
  · cases hm
    exact hts
  · obtain ⟨digest,-,hm⟩ := bind_eq_ok.1 hm
    cases hm
    exact within_add (hf i hi) hts

lemma within_added {ts : List Tally} {p : Tally → Bool} (hf : ∀ i ∈ failed, i ∈ nodes) (hts : ∀ t ∈ ts, t.vertex ∈ nodes) :
    ∀ i ∈ failed ++ (ts.filter p).map (·.vertex), i ∈ nodes :=
  forall_mem_append.2 ⟨hf,forall_mem_map.2 fun t ht => hts t (mem_of_mem_filter ht)⟩

end Net

namespace Run

variable {g h : Net} {nodes : List Nat}

lemma mem_of_passing (hrn : exec (passing c nodes) g = (.ok passed,h)) : ∀ i ∈ passed, i ∈ nodes := by
  induction nodes generalizing g passed with
  | nil =>
    cases hrn
    simp
  | cons i nodes ih =>
    rw [passing] at hrn
    obtain ⟨b,g',-,hrn⟩ := exec_bind_eq_ok.1 hrn
    obtain ⟨rest,g'',hr,hp⟩ := exec_bind_eq_ok.1 hrn
    cases hp
    intro j hj
    cases b with
    | false => exact mem_cons_of_mem _ (ih hr j hj)
    | true =>
      rcases mem_cons.1 hj with rfl | hj
      · exact mem_cons_self
      · exact mem_cons_of_mem _ (ih hr j hj)

lemma within_combined (hr : exec (combined c nodes) g = (.ok o,h)) : o.Within nodes := by
  rw [combined] at hr
  obtain ⟨members,hm,hr⟩ := exec_ask_eq_ok.1 hr
  obtain ⟨passed,g',hp,hr⟩ := exec_bind_eq_ok.1 hr
  rw [exec_get_bind] at hr
  cases hr
  exact ⟨fun i hi => mem_of_ofTypes hm (mem_of_passing hp i hi),fun i hi => mem_of_ofTypes hm (mem_of_mem_filter hi)⟩

lemma unconnected_cons (c : Condition) (cs : List Condition) (nodes : List Nat) : unconnected (c::cs) nodes = do
    let o ← alone c nodes
    return o.append (← unconnected cs nodes) := rfl

lemma within_alone (hr : exec (alone c nodes) g = (.ok o,h)) : o.Within nodes := by
  unfold alone at hr
  split at hr
  · exact within_single hr
  · cases hr
    exact .empty nodes
  · split at hr
    · cases hr
      exact .empty nodes
    · exact within_combined hr

lemma within_unconnected (hr : exec (unconnected cs nodes) g = (.ok o,h)) : o.Within nodes :=
  of_each (.empty nodes) .append (fun _ _ => within_alone) hr

lemma within_alongEdges (hes : ∀ edge ∈ es, edge.1 ∈ nodes ∧ edge.2 ∈ nodes)
    (hr : exec (alongEdges e nodes es) g = (.ok o,h)) : o.Within nodes := by
  refine of_each (.empty nodes) .append (fun edge hm g h o ho => ?_) hr
  obtain ⟨b,ha,-⟩ := exec_alongEdge_eq_ok ho
  exact within_alongEdge (hes edge hm).1 (hes edge hm).2 ha

lemma within_connection {link : Link} {all : List Nat} (hs : nodes ⊆ all)
    (he : ∀ i ∈ e.under ++ e.opposite, i ∈ all) (hr : exec (connection link e nodes) g = (.ok o,h)) : o.Within all := by
  rw [connection,exec_get_bind] at hr
  obtain ⟨along,h',ha,hr⟩ := exec_bind_eq_ok.1 hr
  rw [exec_get_bind] at hr
  cases hr
  have hw := within_alongEdges (fun edge hed => (mem_edgesInOrder.1 hed).2) ha
  exact h.within_concluded link he ⟨fun i hi => hs (hw.passed i hi),fun i hi => hs (hw.failed i hi)⟩

mutual

lemma within_connect : (c : Condition) → ∀ {nodes exclude g h o}, exec (connect c nodes exclude) g = (.ok o,h) →
    o.Within nodes
  | .connection link types connected,nodes,exclude,g,h,o,hr => by
    rw [connect] at hr
    obtain ⟨e,he,hr⟩ := exec_ask_eq_ok.1 hr
    exact within_connection (Subset.refl _) (fun i hi => within_ends he hi) hr
  | .conj cs,nodes,exclude,g,h,o,hr => by
    rcases exists_of_conj hr with ⟨-,rfl,-⟩ | ⟨alone,h₁,ids,passed,types,early,h₂,late,passed',ha,-,hp,-,her,hl,hp',hk⟩
    · exact .empty nodes
    have hs : Outcome.Within nodes ⟨passed,alone.failed⟩ :=
      (within_unconnected ha).of_subset ⟨subset_of_withoutIds hp,Subset.refl _⟩
    have hen := within_connectAll cs hl (within_connectAll cs her hs)
    obtain ⟨hsb,hsb'⟩ := subset_of_kept hk
    exact hen.of_subset ⟨fun i hi => subset_of_withoutIds hp' (hsb hi),hsb'⟩
  | .disj cs,nodes,exclude,g,h,o,hr => by
    obtain ⟨alone,h₁,failed,linked,tallies,failed',ha,hf,hln,hf',hk⟩ := exists_of_disj hr
    obtain ⟨hp,htl⟩ := within_connectAny cs hln (by simp) (by simp)
    have ha := within_unconnected ha
    refine Outcome.Within.of_subset ⟨fun i hi => ?_,fun i hi => ?_⟩ (subset_of_kept hk)
    · exact forall_mem_append.2 ⟨ha.passed,hp⟩ i hi
    · exact within_added (fun i hi => ha.failed i (subset_of_notPassed hf hi)) htl i (subset_of_notPassed hf' hi)
  | .attr _,nodes,_,_,_,_,hr | .filter _ _ _,nodes,_,_,_,_,hr | .negation _,nodes,_,_,_,_,hr => by
    simp only [connect] at hr
    cases hr
    exact .empty nodes

lemma within_connectAll : (cs : List Condition) → ∀ {types late nodes g h} {acc acc' : Outcome × List Value},
    exec (connectAll cs types late nodes acc) g = (.ok acc',h) → acc.1.Within nodes → acc'.1.Within nodes
  | [],types,late,nodes,g,h,acc,acc',hr,ha => by
    rw [connectAll] at hr
    cases hr
    exact ha
  | c::cs,types,late,nodes,g,h,(o,ids),acc',hr,ha => by
    rw [connectAll] at hr
    split at hr
    · obtain ⟨p,k,hc,hr⟩ := exec_bind_eq_ok.1 hr
      obtain ⟨more,-,hr⟩ := exec_ask_eq_ok.1 hr
      exact within_connectAll cs hr (ha.append (within_connect c hc))
    · exact within_connectAll cs hr ha

lemma within_connectAny : (cs : List Condition) → ∀ {nodes passed tallies g h passed' tallies'},
    exec (connectAny cs nodes (passed,tallies)) g = (.ok (passed',tallies'),h) → (∀ i ∈ passed, i ∈ nodes) →
      (∀ t ∈ tallies, t.vertex ∈ nodes) → (∀ i ∈ passed', i ∈ nodes) ∧ ∀ t ∈ tallies', t.vertex ∈ nodes
  | [],nodes,passed,tallies,g,h,passed',tallies',hr,hp,ht => by
    rw [connectAny] at hr
    cases hr
    exact ⟨hp,ht⟩
  | c::cs,nodes,passed,tallies,g,h,passed',tallies',hr,hp,ht => by
    rw [connectAny] at hr
    split at hr
    · obtain ⟨o,k,hc,hr⟩ := exec_bind_eq_ok.1 hr
      have ho := within_connect c hc
      dsimp only at hr
      obtain ⟨more,hm,hr⟩ := exec_ask_eq_ok.1 hr
      exact within_connectAny cs hr (forall_mem_append.2 ⟨hp,ho.passed⟩) (within_tallied hm ho.failed ht)
    · exact within_connectAny cs hr hp ht

end

end Run

end InfraAudit.Policy
