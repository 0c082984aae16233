import InfraAudit.Proofs.Policy.Growth

/-!
When the verdicts of a policy depend on which policies were run before. They stay the same if the first policy stores
nothing, or if the second does not look at what was added.
-/

namespace InfraAudit.Policy

open List Net Json.Path Operator Value AttributeTest

variable {b b' : Fields} {names : List String}

namespace Net

/-- The names that blocks got, and the name under which links show. -/
def gained (g h : Net) : List String :=
  linkKey :: g.nodes.flatMap fun i => ((h.attributes i).map Prod.fst).filter fun k => !Fields.has (g.attributes i) k

lemma linkKey_mem_gained (g h : Net) : linkKey ∈ g.gained h := mem_cons_self

namespace Extends

variable {g h : Net}

lemma mem_gained (he : g.Extends h) (hn : h.attributes i = g.attributes i ++ new)
    (ha : Additions (g.attributes i) new) (hf : f ∈ new) : f.1 ∈ g.gained h := by
  have hi : i ∈ g.nodes := by
    refine mem_range.2 (Nat.lt_of_not_le fun hle => ?_)
    rw [attributes_of_size_le (he.size ▸ hle)] at hn
    simp [(append_eq_nil_iff.1 hn.symm).2] at hf
  refine mem_cons_of_mem _ (mem_flatMap.2 ⟨i,hi,mem_filter.2 ⟨?_,?_⟩⟩)
  · exact mem_map_of_mem (hn ▸ mem_append_right _ hf)
  · simp [Fields.has,Fields.get?,(ha f hf).1]

lemma outside_eq (he : g.Extends h) (i : Nat) :
    outside (g.gained h) (g.attributes i) = outside (g.gained h) (h.attributes i) := by
  obtain ⟨new,hn,ha⟩ := he.attributes i
  rw [hn,outside_append,outside_eq_nil fun f hf => he.mem_gained hn ha hf,append_nil]

lemma not_mem_gained (he : g.Extends h) (hp : Json.isPlain k) (hk : k ≠ linkKey) : k ∉ g.gained h := by
  intro hm
  rcases mem_cons.1 hm with rfl | hm
  · exact hk rfl
  obtain ⟨i,-,hm⟩ := mem_flatMap.1 hm
  obtain ⟨hky,hn⟩ := mem_filter.1 hm
  obtain ⟨f,hf,rfl⟩ := mem_map.1 hky
  obtain ⟨new,hnw,ha⟩ := he.attributes i
  rw [hnw] at hf
  rcases mem_append.1 hf with hf | hf
  · simp [Json.has_of_mem hf] at hn
  · simp [(ha f hf).2] at hp

end Extends

end Net

def stored (b : Fields) (k : String) (v : Value) : Fields := if Fields.has b k then b else b ++ [(k,v)]

lemma lookup_stored (b : Fields) (k k' : String) (v : Value) :
    (stored b k v).lookup k' = (b.lookup k').or (if k' = k then some v else none) := by
  have hl : [(k,v)].lookup k' = if k' = k then some v else none := by
    by_cases hk : k' = k
    · simp [hk]
    · have hne : (k' == k) = false := by simpa using hk
      simp [lookup_cons,hne,hk]
  unfold stored Fields.has Fields.get?
  cases hb : b.lookup k with
  | none => simp [lookup_append,hl]
  | some u =>
    by_cases hk : k' = k
    · simp [hk,hb]
    · simp [hk]

lemma outside_stored (hk : k ∈ names) (b : Fields) (v : Value) : outside names (stored b k v) = outside names b := by
  unfold stored
  split
  · rfl
  · have hl : outside names [(k,v)] = [] := outside_eq_nil (by simpa using hk)
    rw [outside_append,hl,append_nil]

/-- Blocks that are the same but for some names: what the first has, the second has too, and what
only the second has was added before. -/
structure Follows (names : List String) (start added b b' : Fields) : Prop where
  same : outside names b = outside names b'
  start : ∀ {k v}, k ≠ linkKey → start.lookup k = some v → b.lookup k = some v
  known : ∀ {k v}, k ≠ linkKey → b.lookup k = some v → b'.lookup k = some v
  added : ∀ {k v}, k ≠ linkKey → b'.lookup k = some v → b.lookup k = none → added.lookup k = some v

namespace Follows

variable {names : List String} {start added b b' : Fields}

variable (h : Follows names start added b b')

include h

lemma lookup_eq (hk : k ∉ names) : b.lookup k = b'.lookup k := by rw [← lookup_outside hk,h.same,lookup_outside hk]

lemma congr (hc : outside names c = outside names b)
    (hc' : outside names c' = outside names b') (hl : ∀ {k}, k ≠ linkKey → c.lookup k = b.lookup k)
    (hl' : ∀ {k}, k ≠ linkKey → c'.lookup k = b'.lookup k) : Follows names start added c c' where
  same := by rw [hc,hc',h.same]
  start := fun hk hv => (hl hk).trans (h.start hk hv)
  known := fun hk hv => (hl' hk).trans (h.known hk (hl hk ▸ hv))
  added := fun hk hv hn => h.added hk (hl' hk ▸ hv) (hl hk ▸ hn)

lemma outside_stored_eq (k : String) (v : Value) : outside names (stored b k v) = outside names (stored b' k v) := by
  by_cases hk : k ∈ names
  · rw [outside_stored hk,outside_stored hk,h.same]
  · have hh : Fields.has b k = Fields.has b' k := by simp only [Fields.has,Fields.get?,h.lookup_eq hk]
    unfold stored
    rw [hh]
    split
    · exact h.same
    · rw [outside_append,outside_append,h.same]

lemma stored (hk : k ∈ names → ∀ w, added.lookup k = some w → w = v) :
    Follows names start added (stored b k v) (stored b' k v) := by
  refine ⟨h.outside_stored_eq k v,fun {k' w} hk' hw => ?_,fun {k' w} hk' hw => ?_,fun {k' w} hk' hw hn => ?_⟩
  · rw [lookup_stored,h.start hk' hw,Option.some_or]
  · rw [lookup_stored,Option.or_eq_some_iff] at hw
    rw [lookup_stored]
    rcases hw with hw | ⟨hn,hw⟩
    · rw [h.known hk' hw,Option.some_or]
    · cases hb' : b'.lookup k' with
      | none => rw [Option.none_or,hw]
      | some u =>
        -- The second block has the attribute from before, and the first gets it now.
        obtain ⟨rfl,rfl⟩ : k' = k ∧ v = w := by simpa using hw
        have hm : k' ∈ names := Classical.byContradiction fun hnt => by simp [h.lookup_eq hnt,hb'] at hn
        rw [Option.some_or,hk hm u (h.added hk' hb' hn)]
  · rw [lookup_stored,Option.or_eq_none_iff] at hn
    rw [lookup_stored,hn.2,Option.or_none] at hw
    exact h.added hk' hw hn.1

lemma withSpots (hs : ∀ s ∈ spots, s.path ∈ names → ∀ w, added.lookup s.path = some w → w = s.value) :
    Follows names start added (withSpots b spots) (withSpots b' spots) := by
  induction spots generalizing b b' with
  | nil => exact h
  | cons s spots ih =>
    exact ih (h.stored (hs s mem_cons_self)) fun m hm => hs m (mem_cons_of_mem _ hm)

end Follows

/-- Under a path of that name, what was added to the block is what is found there. -/
structure PathUndisturbed (names : List String) (start added : Fields) (p : Json.Path) : Prop where
  blind : ∀ {b b' : Fields}, outside names b = outside names b' → p.found b = p.found b'
  agrees : ∀ {b : Fields} {spots : List Json.Spot},
    (∀ {k v}, k ≠ linkKey → start.lookup k = some v → b.lookup k = some v) → p.found b = .ok spots →
    ∀ s ∈ spots, s.path ∈ names → ∀ w, added.lookup s.path = some w → w = s.value

lemma PathUndisturbed.path_ne
    (h : PathUndisturbed names start added p) (hl : linkKey ∈ names)
    (hf : p.found b = .ok spots) : ∀ s ∈ spots, s.path ≠ linkKey := by
  intro s hs hp
  have hb : p.found (outside names b) = .ok spots := by
    rw [← hf]
    exact h.blind (by simp [outside])
  unfold found at hb
  cases hsl : p.select (.dict (outside names b)) with
  | error e => simp [hsl,Except.map] at hb
  | ok places =>
    obtain rfl : places.map Json.Spot.bare = spots := by simpa [hsl,Except.map] using hb
    obtain ⟨m,hm,rfl⟩ := mem_map.1 hs
    have hpl := Json.Placed.find p (Json.Placed.start (outside names b)) places hsl m hm
    have hn : m.path = linkKey := hp
    have hh := hpl.has_of_isPlain (hn ▸ by decide)
    rw [hn] at hh
    simp [Fields.has,Fields.get?,lookup_outside_of_mem hl] at hh

/-- The attribute that the path looks at has none of the names, and what was added under it is what
it finds at the start. -/
lemma pathUndisturbed_fieldPath {start added : Fields} {first : String} {fields : List String}
    (hf : first ≠ "*") (hn : first ∉ names)
    (hst : (∃ v, first ≠ linkKey ∧ start.lookup first = some v) ∨ ∀ k, added.lookup k = none)
    (ha : ∀ {spots}, (Json.fieldPath first fields).found start = .ok spots → ∀ s ∈ spots,
      ∀ w, added.lookup s.path = some w → w = s.value) :
    PathUndisturbed names start added (Json.fieldPath first fields) where
  blind := by
    intro b b' hsm
    refine Json.found_fieldPath hf fields ?_
    rw [← lookup_outside hn,hsm,lookup_outside hn]
  agrees := by
    intro b spots hb hfn s hs _ w hw
    rcases hst with ⟨v,hl,hv⟩ | hnn
    · rw [Json.found_fieldPath hf fields ((hb hl hv).trans hv.symm)] at hfn
      exact ha hfn s hs w hw
    · simp [hnn] at hw

/-- A test that looks at none of the names, but for path queries that are not disturbed. -/
structure AttributeTest.Undisturbed (names : List String) (start added : Fields) (t : AttributeTest) : Prop where
  named : ∀ k, t.attribute? = some k → k ∉ names
  byPath : t.byPath → ∀ name p, t.query? = some name → read name = .ok p → PathUndisturbed names start added p
  byPattern : t.byPath = false → ∀ name numbered bare, t.query? = some name →
    wildcardPatterns name = .ok (numbered,bare) → ∀ k ∈ names, (numbered.matches? k || bare.matches? k) = false

lemma Operator.holds_congr (op : Operator) (v : Value)
    (hs : b.lookup "source_" = b'.lookup "source_") (hk : ∀ k, key = some k → b.lookup k = b'.lookup k) :
    op.holds b key v = op.holds b' key v := by
  have ha : attributeOf b key = attributeOf b' key := by
    cases key with
    | none => rfl
    | some k => simp only [attributeOf,hk k rfl]
  have hsg : holds.soughtIn b key = holds.soughtIn b' key := by
    cases key with
    | none => rfl
    | some k => simp only [holds.soughtIn,Option.bind_some,hk k rfl]
  have hu : ∀ a, isUnrendered b a = isUnrendered b' a := by
    intro a
    simp only [isUnrendered,hs]
  cases op <;>
    simp only [holds,ha,hsg,isEqual,unlessUnrendered,lengthIs,isTrueValue,isEmptyValue,startsWithText,endsWithText,hu]

namespace AttributeTest

variable {t : AttributeTest}

lemma settle_congr {keys : List (Option String)} (h : ∀ k ∈ keys, t.holdsFor b k = t.holdsFor b' k) :
    t.settle b keys = t.settle b' keys := by
  induction keys with
  | nil => rfl
  | cons k keys ih =>
    rw [settle,settle,h k mem_cons_self,ih fun k' hk' => h k' (mem_cons_of_mem _ hk')]

lemma answer_congr (ht : b.lookup "resource_type" = b'.lookup "resource_type")
    (hs : b.lookup "source_" = b'.lookup "source_") (hn : ∀ k, t.attribute? = some k → b.lookup k = b'.lookup k)
    {keys : List String} (hky : ∀ k ∈ keys, b.lookup k = b'.lookup k) : t.answer b keys = t.answer b' keys := by
  have hi : t.types.includes b = t.types.includes b' := by rw [TypeNames.includes,TypeNames.includes,ht]
  have hst : t.settle b (t.asked keys) = t.settle b' (t.asked keys) := by
    refine settle_congr fun key hke => t.operator.holds_congr t.value hs fun k hk => ?_
    subst hk
    unfold asked at hke
    split at hke
    · exact hn k (mem_singleton.1 hke).symm
    · obtain ⟨k',hk',heq⟩ := mem_map.1 hke
      cases heq
      exact hky k hk'
  rw [answer,answer,hi,hst]

lemma withSpots_bare (b : Fields) (spots : List Json.Spot) :
    withSpots b (spots.map Json.Spot.bare) = withSpots b spots := by
  induction spots generalizing b with
  | nil => rfl
  | cons s spots ih => exact ih _

lemma look_path (hq : t.query? = some name) (hp : t.byPath) (b : Fields) : t.look b = do
      let p ← read name let spots ← p.found b return (withSpots b spots,spots.map (·.path)) := by
  simp only [look,hq,hp,if_true]
  cases read name with
  | error e => rfl
  | ok p =>
    simp only [bind,Except.bind,found]
    cases p.select (.dict b) with
    | error e => rfl
    | ok spots =>
      simp only [Except.map,withSpots_bare,map_map]
      rfl

lemma isSome_lookup_withSpots (hs : s ∈ spots) (b : Fields) : ((withSpots b spots).lookup s.path).isSome := by
  induction spots generalizing b with
  | nil => cases hs
  | cons m spots ih =>
    rcases mem_cons.1 hs with rfl | hs
    · obtain ⟨new,hn,-⟩ := withSpots_eq (stored b s.path s.value) spots
      show ((withSpots (stored b s.path s.value) spots).lookup s.path).isSome
      rw [hn,lookup_append,lookup_stored]
      cases b.lookup s.path <;> simp
    · exact ih hs _

lemma filter_outside (hp : ∀ k ∈ names, p k = false) (b : Fields) :
    (b.map Prod.fst).filter p = ((outside names b).map Prod.fst).filter p := by
  induction b with
  | nil => rfl
  | cons f b ih =>
    rw [map_cons,filter_cons,ih]
    by_cases hf : f.1 ∈ names
    · have ho : outside names (f::b) = outside names b := by simp [outside,hf]
      rw [ho,hp f.1 hf]
      rfl
    · have ho : outside names (f::b) = f :: outside names b := by simp [outside,hf]
      rw [ho,map_cons,filter_cons]

lemma look_undisturbed (hl : linkKey ∈ names) (h : t.Undisturbed names start added)
    (hrl : Follows names start added b b') : (∃ e, t.look b = .error e ∧ t.look b' = .error e) ∨
      ∃ after after' keys, t.look b = .ok (after,keys) ∧ t.look b' = .ok (after',keys) ∧
        Follows names start added after after' ∧ ∀ k ∈ keys, after.lookup k = after'.lookup k := by
  cases hq : t.query? with
  | none => exact .inr ⟨b,b',[],by simp [look,hq],by simp [look,hq],hrl,by simp⟩
  | some name =>
    cases hpt : t.byPath with
    | true =>
      rw [look_path hq hpt,look_path hq hpt]
      cases hr : read name with
      | error e => exact .inl ⟨e,rfl,rfl⟩
      | ok p =>
        have hp := h.byPath hpt name p hq hr
        simp only [ok_bind,← hp.blind hrl.same]
        cases hf : p.found b with
        | error e => exact .inl ⟨e,rfl,rfl⟩
        | ok spots =>
          have ha := hp.agrees hrl.start hf
          have haf := hrl.withSpots ha
          refine .inr ⟨_,_,_,rfl,rfl,haf,fun k hk => ?_⟩
          obtain ⟨s,hs,rfl⟩ := mem_map.1 hk
          by_cases hmm : s.path ∈ names
          · obtain ⟨v,hv⟩ := Option.isSome_iff_exists.1 (isSome_lookup_withSpots hs b)
            rw [hv,haf.known (hp.path_ne hl hf s hs) hv]
          · exact haf.lookup_eq hmm
    | false =>
      simp only [look,hq,hpt,Bool.false_eq_true,if_false]
      cases hr : wildcardPatterns name with
      | error e => exact .inl ⟨e,rfl,rfl⟩
      | ok patterns =>
        have hn := h.byPattern hpt name patterns.1 patterns.2 hq hr
        have hky : (b.map Prod.fst).filter (fun k => patterns.1.matches? k || patterns.2.matches? k) =
            (b'.map Prod.fst).filter fun k => patterns.1.matches? k || patterns.2.matches? k := by
          rw [filter_outside hn b,filter_outside hn b',hrl.same]
        refine .inr ⟨b,b',_,rfl,?_,hrl,fun k hk => hrl.lookup_eq fun hmm => ?_⟩
        · rw [hky]
          rfl
        · have hm := (mem_filter.1 hk).2
          rw [hn k hmm] at hm
          cases hm

lemma inStep_of_undisturbed (hl : linkKey ∈ names) (ht : "resource_type" ∉ names) (hs : "source_" ∉ names)
    (h : t.Undisturbed names start added) : InStep (Follows names start added) t.holds := by
  intro b b' hr
  obtain ⟨-,new,-,hnw,-,had,-⟩ := t.inStep_eq b b rfl
  obtain ⟨-,new',-,hnw',-,-,-⟩ := t.inStep_eq b' b' rfl
  refine ⟨?_,new,new',hnw,hnw',had,?_⟩
  all_goals
    rw [t.exec_holds,t.exec_holds]
    rcases look_undisturbed hl h hr with ⟨e,hlk,hlk'⟩ | ⟨after,after',keys,hlk,hlk',ha,hky⟩
  · rw [hlk,hlk']
  · rw [hlk,hlk']
    have hn : ∀ k, t.attribute? = some k → after.lookup k = after'.lookup k := fun k hk =>
      ha.lookup_eq (h.named k hk)
    exact answer_congr (ha.lookup_eq ht) (ha.lookup_eq hs) hn hky
  · rw [hlk,hlk']
    exact hr
  · rw [hlk,hlk']
    exact ha

end AttributeTest

lemma eq_of_eqFields (h : eqFields b b')
    (hv : b.lookup k = some v) (hw : b'.lookup k = some w) : eq v w := by
  induction b with
  | nil => simp at hv
  | cons f b ih =>
    obtain ⟨k',u⟩ := f
    simp only [eqFields,Bool.and_eq_true] at h
    by_cases hk : k = k'
    · subst hk
      obtain rfl : u = v := by simpa using hv
      simpa [hw] using h.1
    · have hne : (k == k') = false := by simpa using hk
      simp only [lookup_cons,hne] at hv
      exact ih h.2 hv

namespace Net

/-- Every two blocks differ in an attribute that both have, under none of the names. -/
def ToldApart (names : List String) (g : Net) : Prop :=
  ∀ i < g.vertices.size, ∀ j < g.vertices.size, i ≠ j → ∃ k v w, k ∉ names ∧ (g.attributes i).lookup k = some v ∧
    (g.attributes j).lookup k = some w ∧ eq v w = false

variable {g h : Net}

lemma alike_eq (hl : linkKey ∈ names) (ht : g.ToldApart names) (hs : h.vertices.size = g.vertices.size)
    (hkp : ∀ i k v, k ∉ names → (g.attributes i).lookup k = some v → (h.attributes i).lookup k = some v) (i j : Nat) :
    h.alike i j = (i == j) := by
  by_cases hij : i = j
  · simp [alike,hij]
  by_cases hsz : i < g.vertices.size ∧ j < g.vertices.size
  · obtain ⟨k,v,w,hk,hv,hw,hne⟩ := ht i hsz.1 j hsz.2 hij
    have hky : k ≠ linkKey := fun heq => hk (heq ▸ hl)
    have heq : eq (.dict (h.data i)) (.dict (h.data j)) = false := by
      refine Bool.eq_false_iff.2 fun heq => ?_
      simp only [eq,Bool.and_eq_true] at heq
      have hsm := eq_of_eqFields heq.2 ((lookup_data hky h i).trans (hkp i k v hk hv))
        ((lookup_data hky h j).trans (hkp j k w hk hw))
      rw [hne] at hsm
      cases hsm
    simp [alike,heq]
  · rw [← hs] at hsz
    have ho : (decide (i < h.vertices.size) && decide (j < h.vertices.size)) = false := by
      simpa using fun hi => Nat.le_of_not_lt fun hj => hsz ⟨hi,hj⟩
    simp only [alike,ho,Bool.false_and,Bool.or_false]

end Net

/-- The nets of two runs, the second on a net with added attributes. -/
structure Abreast (names : List String) (g g' h h' : Net) : Prop where
  size : h.vertices.size = g.vertices.size
  size' : h'.vertices.size = g.vertices.size
  edges : h.edges = h'.edges
  blocks : ∀ i, Follows names (g.attributes i) (g'.attributes i) (h.attributes i) (h'.attributes i)

namespace Abreast

lemma start (he : g.Extends g') : Abreast (g.gained g') g g' g g' := by
  refine ⟨rfl,he.size,he.edges.symm,fun i => ⟨he.outside_eq i,fun _ hv => hv,fun _ hv => ?_,fun _ hv _ => hv⟩⟩
  exact he.lookup hv

lemma link (hr : Abreast names g g' h h') (v u : Nat) : Abreast names g g' (h.link v u) (h'.link v u) := by
  refine ⟨by simpa [Net.link] using hr.size,by simpa [Net.link] using hr.size',hr.edges,fun i => ?_⟩
  rw [attributes_link,attributes_link]
  exact hr.blocks i

variable (hl : linkKey ∈ names)

include hl

lemma data (hr : Abreast names g g' h h') (i : Nat) :
    Follows names (g.attributes i) (g'.attributes i) (h.data i) (h'.data i) :=
  (hr.blocks i).congr (outside_data hl h i) (outside_data hl h' i) (fun hk => lookup_data hk h i)
    fun hk => lookup_data hk h' i

lemma store (hr : Abreast names g g' h h')
    (hb : Follows names (g.attributes i) (g'.attributes i) (h.data i ++ new) (h'.data i ++ new')) :
    Abreast names g g' (h.store i new) (h'.store i new') := by
  refine ⟨by simpa [Net.store] using hr.size,by simpa [Net.store] using hr.size',hr.edges,fun j => ?_⟩
  rw [attributes_store,attributes_store,hr.size,hr.size']
  split
  · next hij =>
    obtain ⟨rfl,-⟩ := hij
    refine hb.congr ?_ ?_ (fun hk => ?_) fun hk => ?_
    · rw [outside_append,outside_append,outside_data hl]
    · rw [outside_append,outside_append,outside_data hl]
    · rw [lookup_append,lookup_append,lookup_data hk]
    · rw [lookup_append,lookup_append,lookup_data hk]
  · exact hr.blocks j

lemma isAmong_eq (ht : g.ToldApart names) (hr : Abreast names g g' h h') (i : Nat)
    (vs : List Nat) : h.isAmong i vs = h'.isAmong i vs := by
  have hkp : ∀ i k v, k ∉ names → (g.attributes i).lookup k = some v → (h.attributes i).lookup k = some v :=
    fun i k v hk hv => (hr.blocks i).start (fun heq => hk (heq ▸ hl)) hv
  have ha : h.alike i = h'.alike i := by
    funext j
    rw [alike_eq hl ht hr.size hkp,alike_eq hl ht hr.size' fun i k v hk hv => ?_]
    rw [← (hr.blocks i).lookup_eq hk]
    exact hkp i k v hk hv
  rw [isAmong,isAmong,ha]

lemma pairing (ho : ∀ k ∈ ownKeys, k ∉ names) (ht : g.ToldApart names) :
    Pairing (Abreast names g g') fun i => Follows names (g.attributes i) (g'.attributes i) where
  size := fun hr => hr.size.trans hr.size'.symm
  edges := fun hr => hr.edges
  get? := fun hr _ hk i => (hr.blocks i).lookup_eq (ho _ hk)
  isAmong := fun hr => hr.isAmong_eq hl ht
  data := fun hr => hr.data hl
  store := fun hr _ _ _ _ hb => hr.store hl hb

end Abreast

def Condition.Undisturbed (names : List String) (g g' : Net) : Condition → Prop
  | .attr t => ∀ i, t.Undisturbed names (g.attributes i) (g'.attributes i)
  | .filter a _ _ => ∀ k, a = some k → k ∉ names
  | _ => True

lemma Condition.keeps_congr (h : ∀ k, a = some k → b.lookup k = b'.lookup k)
    (v : Value) : keeps a v b = keeps a v b' := by
  unfold keeps
  split
  · rfl
  · rfl
  · next k _ =>
    have hs : attributeOf b (some k) = attributeOf b' (some k) := by rw [attributeOf,attributeOf,h k rfl]
    rw [hs]

lemma Condition.fits_of_undisturbed (hl : linkKey ∈ names)
    (ht : "resource_type" ∉ names) (hs : "source_" ∉ names) {c : Condition}
    (h : ∀ d ∈ c.simples, d.Undisturbed names g g') :
    c.Fits (Abreast names g g') fun i => Follows names (g.attributes i) (g'.attributes i) := by
  intro d hd
  have hd := h d hd
  cases d with
  | attr t => exact fun i => inStep_of_undisturbed hl ht hs (hd i)
  | connection _ _ _ => exact fun _ _ hr => hr.link
  | filter a v _ => exact fun _ _ _ hr => keeps_congr (fun k hk => hr.lookup_eq (hd k hk)) v
  | conj _ | disj _ | negation _ => trivial

/-- The verdicts of a policy are the same after another policy has been run on the net, if that one stores nothing,
or if blocks are told apart and the conditions look at nothing that it added. -/
theorem verdicts_after_run {a b : Rule} {g : Net} (h : (∀ c ∈ a.condition.simples, c.StoresNothing) ∨
      g.ToldApart (g.gained (a.apply g).2) ∧
        ∀ c ∈ b.condition.simples, c.Undisturbed (g.gained (a.apply g).2) g (a.apply g).2) :
    (b.apply (a.apply g).2).1 = (b.apply g).1 := by
  rcases h with hstores | ⟨htold,hb⟩
  · rw [a.apply_eq_self hstores]
  · have hext := a.extends_apply g
    have hplain : ∀ k ∈ "source_" :: Net.ownKeys, k ∉ g.gained (a.apply g).2 := by
      intro k hk
      have hnames : ∀ k ∈ "source_" :: Net.ownKeys, Json.isPlain k = true ∧ k ≠ Net.linkKey := by decide
      exact hext.not_mem_gained (hnames k hk).1 (hnames k hk).2
    have hlink := g.linkKey_mem_gained (a.apply g).2
    have hfits :=
      Condition.fits_of_undisturbed hlink (hplain "resource_type" (by decide)) (hplain "source_" (by decide)) hb
    have hpairing : Pairing (Abreast (g.gained (a.apply g).2) g (a.apply g).2) _ :=
      Abreast.pairing hlink (fun k hk => hplain k (List.mem_cons_of_mem _ hk)) htold
    exact (hpairing.stable_policy hfits g (a.apply g).2 (Abreast.start hext)).1.symm

def policyOn (c : Condition) : Rule :=
  { id := "", name := "", category := "", frameworks := .list [], kind := none, operator := .null,
    types := .oneOf [], condition := c, draft := .node "and" [] }

def taggedBlock (id type name : String) : Fields :=
  [("block_type_","resource"),("resource_type",.str type),("source_","Terraform"),("id_",.str id),
    ("file_path_","/main.tf"),("hash",.str id),("port",.int 80),("tags",.dict [("Name",.str name)])]

def taggedNet : Net := .ofParts [taggedBlock "host.a" "host" "web",taggedBlock "net.b" "net" "db"] [(0,1)]

def namedByPath : Rule := policyOn (.conj [.attr ⟨.oneOf ["host","net"],.present,some "$.tags.Name",.null,true⟩,
    .connection .linked (.oneOf ["host"]) (.oneOf ["net"])])

def namedByKey : Rule := policyOn (.attr ⟨.oneOf ["host"],.present,some "tags.Name",.null,false⟩)

/-- Connected hosts with a port and a given name. -/
def webHosts : Rule := policyOn (.conj [.attr ⟨.oneOf ["host"],.equals,some "$.tags.Name","web",true⟩,
    .attr ⟨.oneOf ["host"],.present,some "port",.null,false⟩,
    .connection .linked (.oneOf ["host"]) (.oneOf ["net"])])

/-- What a path query stored is an attribute for later policies. -/
theorem verdicts_differ_after_run : (namedByKey.apply taggedNet).1.toOption = some ⟨[],[0]⟩ ∧
      (namedByKey.apply (namedByPath.apply taggedNet).2).1.toOption = some ⟨[0],[]⟩ := by
  decide +kernel

def isStr (v : Option Value) (s : String) : Bool :=
  match v with
  | some (.str t) => t == s
  | _ => false

lemma eq_of_isStr (h : isStr v s) : v = some (.str s) := by
  unfold isStr at h
  split at h
  · next t => rw [beq_iff_eq.1 h]
  · cases h

lemma gained_namedByPath :
    taggedNet.gained (namedByPath.apply taggedNet).2 = ["connected_node","tags.Name","tags.Name"] := by
  decide +kernel

lemma toldApart_taggedNet : taggedNet.ToldApart ["connected_node","tags.Name","tags.Name"] := by
  intro i hi j hj hij
  have hs : taggedNet.vertices.size = 2 := by decide +kernel
  rcases (by omega : i = 0 ∧ j = 1 ∨ i = 1 ∧ j = 0) with ⟨rfl,rfl⟩ | ⟨rfl,rfl⟩
  · exact ⟨"hash","host.a","net.b",by decide,rfl,rfl,by decide +kernel⟩
  · exact ⟨"hash","net.b","host.a",by decide,rfl,rfl,by decide +kernel⟩

lemma pathUndisturbed_taggedNet (i : Nat) :
    PathUndisturbed ["connected_node","tags.Name","tags.Name"] (taggedNet.attributes i)
      ((namedByPath.apply taggedNet).2.attributes i) (Json.fieldPath "tags" ["Name"]) := by
  have hf : ∀ i name, (taggedNet.attributes i).lookup "tags" = some (.dict [("Name",.str name)]) →
      (Json.fieldPath "tags" ["Name"]).found (taggedNet.attributes i) = .ok [⟨.str name,["Name","tags"],[]⟩] →
      ((namedByPath.apply taggedNet).2.attributes i).lookup "tags.Name" = some (.str name) →
      PathUndisturbed ["connected_node","tags.Name","tags.Name"] (taggedNet.attributes i)
        ((namedByPath.apply taggedNet).2.attributes i) (Json.fieldPath "tags" ["Name"]) := by
    intro i name ht hfn ha
    refine pathUndisturbed_fieldPath (by decide) (by decide) (.inl ⟨_,by decide,ht⟩) fun hsp s hs w hw => ?_
    rw [hfn] at hsp
    cases hsp
    obtain rfl := mem_singleton.1 hs
    have hp : ∀ v, Json.Spot.path ⟨v,["Name","tags"],[]⟩ = "tags.Name" := fun _ => rfl
    rw [hp,ha] at hw
    exact (Option.some.inj hw).symm
  match i with
  | 0 => exact hf 0 "web" rfl rfl (eq_of_isStr (by decide +kernel))
  | 1 => exact hf 1 "db" rfl rfl (eq_of_isStr (by decide +kernel))
  | i+2 =>
    have hsz : (namedByPath.apply taggedNet).2.vertices.size = 2 := by decide +kernel
    have hn : (namedByPath.apply taggedNet).2.attributes (i+2) = [] := attributes_of_size_le (by omega)
    refine pathUndisturbed_fieldPath (by decide) (by decide) (.inr fun k => by simp [hn]) fun _ s _ w hw => ?_
    simp [hn] at hw

theorem verdicts_after_run_webHosts : taggedNet.ToldApart (taggedNet.gained (namedByPath.apply taggedNet).2) ∧
      (webHosts.apply (namedByPath.apply taggedNet).2).1 = (webHosts.apply taggedNet).1 ∧
        (webHosts.apply taggedNet).1.toOption = some ⟨[0,1],[]⟩ := by
  have hread : read "$.tags.Name" = .ok (Json.fieldPath "tags" ["Name"]) := by cbv
  have hundisturbed : ∀ c ∈ webHosts.condition.simples,
      c.Undisturbed (taggedNet.gained (namedByPath.apply taggedNet).2) taggedNet (namedByPath.apply taggedNet).2 := by
    rw [gained_namedByPath]
    intro c hc
    change c ∈ [_,_,_] at hc
    simp only [List.mem_cons,List.not_mem_nil,or_false] at hc
    rcases hc with rfl | rfl | rfl
    · refine fun i => ⟨?_,fun _ name p hquery hp => ?_,fun h => by cases h⟩
      · rintro _ ⟨⟩
        decide
      · obtain rfl : name = "$.tags.Name" := by
          refine (Option.some.inj (Eq.trans ?_ hquery)).symm
          decide +kernel
        rw [hread] at hp
        cases hp
        exact pathUndisturbed_taggedNet i
    · refine fun i => ⟨?_,(fun h => by cases h),fun _ name _ _ hquery => ?_⟩
      · rintro _ ⟨⟩
        decide
      · refine absurd (Eq.trans ?_ hquery) (Option.some_ne_none name).symm
        decide +kernel
    · trivial
  have htold : taggedNet.ToldApart (taggedNet.gained (namedByPath.apply taggedNet).2) := by
    rw [gained_namedByPath]
    exact toldApart_taggedNet
  exact ⟨htold,verdicts_after_run (.inr ⟨htold,hundisturbed⟩),by decide +kernel⟩

end InfraAudit.Policy
