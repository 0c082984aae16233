import InfraAudit.Proofs.Policy.Identity
import InfraAudit.Proofs.Policy.Truth
import InfraAudit.Proofs.Policy.Walk
import Mathlib.Data.List.Perm.Subperm

/-!
Which connections a run finds. A block of both kinds of types counts as one of the first kind only, and of an output only the
first edge is followed.
-/

namespace InfraAudit.Policy

open List Run Prod

variable {e : Ends} {i u x y : Nat} {g h : Net}

namespace Net

/-- The same blocks and edges, whatever connections are noted. -/
structure Relinked (g h : Net) : Prop where
  size : h.vertices.size = g.vertices.size
  edges : h.edges = g.edges
  attributes : ∀ i, h.attributes i = g.attributes i

namespace Relinked

variable {g h : Net}

lemma refl (g : Net) : g.Relinked g := ⟨rfl,rfl,fun _ => rfl⟩

variable (hr : g.Relinked h)

include hr

lemma link (v u : Nat) : g.Relinked (h.link v u) :=
  ⟨by simpa [Net.link] using hr.size,hr.edges,fun i => by rw [attributes_link,hr.attributes]⟩

lemma get?_eq (i : Nat) (key : String) : h.get? i key = g.get? i key := by rw [get?,get?,hr.attributes]

lemma typeOf_eq (i : Nat) : h.typeOf i = g.typeOf i := by rw [typeOf,typeOf,hr.get?_eq]

lemma out_eq (nodes : List Nat) (v : Nat) : h.out nodes v = g.out nodes v := by rw [out,out,hr.edges]

lemma toExtends : g.Extends h := ⟨hr.size,hr.edges,fun i => ⟨[],by rw [hr.attributes,append_nil],.nil _⟩⟩

end Relinked

def isOutput (g : Net) (i : Nat) : Bool := g.get? i "block_type_" == some (.str "output")

end Net

namespace Ends

def far (e : Ends) (u : Nat) : List Nat :=
  if e.under.contains u then e.opposite else if e.opposite.contains u then e.under else []

/-- Which blocks are among the ends does not depend on the connections that are noted. -/
def Settled (g : Net) (e : Ends) : Prop :=
  ∀ h, g.Relinked h → ∀ vs ∈ [e.under,e.opposite,e.excluded], ∀ i, h.isAmong i vs = vs.contains i

variable {g h : Net} {e : Ends}

lemma isAmong_nil (h : Net) (i : Nat) : h.isAmong i [] = false := rfl

lemma Settled.isAmong_far (hs : e.Settled g) (hr : g.Relinked h) (u v : Nat) :
    h.isAmong v (e.far u) = (e.far u).contains v := by
  unfold far
  split
  · exact hs h hr _ (by simp) v
  · split
    · exact hs h hr _ (by simp) v
    · rfl

end Ends

namespace Net

def edgeSays (g : Net) (e : Ends) (nodes : List Nat) (u v : Nat) : Result (Outcome × Bool) :=
  if (e.far u).isEmpty then .ok ({},false)
  else if (e.far u).contains v then
    .ok (if e.excluded.contains u || e.excluded.contains v then {failed := [u,v]} else {passed := [u,v]}, true)
  else if g.isOutput v then
    match g.out nodes v with
    | (_,w)::_ => do
      let b ← associates e.types e.connected (g.typeOf u) (g.typeOf w)
      return (if b then {passed := [u,w]} else {},false)
    | [] => .ok ({},false)
  else .ok ({},false)

variable {g h : Net} {e : Ends} {nodes : List Nat}

lemma alongEdge_of_settled (hs : e.Settled g) (hr : g.Relinked h) (u v : Nat) :
    h.alongEdge e nodes u v = g.edgeSays e nodes u v := by
  have hf : (if h.isAmong u e.under then e.opposite else if h.isAmong u e.opposite then e.under else []) = e.far u := by
    rw [Ends.far,hs h hr e.under (by simp),hs h hr e.opposite (by simp)]
  simp only [alongEdge,edgeSays,isOutput,hf,hs.isAmong_far hr,hs h hr e.excluded (by simp),hr.get?_eq,
    hr.out_eq,hr.typeOf_eq]
  by_cases he : (e.far u).isEmpty = true
  · simp only [he,if_true]
    rfl
  by_cases hv : (e.far u).contains v = true
  · simp only [he,hv,if_true,if_false,Bool.false_eq_true]
    rfl
  by_cases ho : (g.get? v "block_type_" == some (.str "output")) = true
  · simp only [he,hv,ho,if_true,if_false,Bool.false_eq_true]
    cases g.out nodes v with
    | nil => rfl
    | cons edge _ =>
      obtain ⟨_,w⟩ := edge
      exact congrArg (associates e.types e.connected (g.typeOf u) (g.typeOf w) >>= ·)
        (funext fun b => by cases b <;> rfl)
  · simp only [he,hv,ho,if_false,Bool.false_eq_true]
    rfl

end Net

lemma exec_alongEdge (hs : e.Settled g) (hr : g.Relinked h) (nodes : List Nat) (u v : Nat) :
    (exec (alongEdge e nodes u v) h).1 = (g.edgeSays e nodes u v).map fst ∧
      g.Relinked (exec (alongEdge e nodes u v) h).2 := by
  rw [alongEdge,exec_get_bind,exec_bind,exec_lift,Net.alongEdge_of_settled hs hr]
  cases g.edgeSays e nodes u v with
  | error f => exact ⟨rfl,hr⟩
  | ok p =>
    obtain ⟨o,found⟩ := p
    cases found with
    | false => exact ⟨rfl,hr⟩
    | true => exact ⟨rfl,hr.link v u⟩

def Outcome.joined (os : List Outcome) : Outcome := ⟨os.flatMap (·.passed),os.flatMap (·.failed)⟩

def Net.said (g : Net) (e : Ends) (nodes : List Nat) (es : List (Nat × Nat)) : Result Outcome :=
  (es.mapM fun edge => (g.edgeSays e nodes edge.1 edge.2).map fst).map .joined

lemma exec_alongEdges (hs : e.Settled g) (hrl : g.Relinked h) (nodes : List Nat) (es : List (Nat × Nat)) :
    (exec (alongEdges e nodes es) h).1 = g.said e nodes es ∧ g.Relinked (exec (alongEdges e nodes es) h).2 := by
  unfold Net.said alongEdges
  induction es generalizing h with
  | nil => exact ⟨rfl,hrl⟩
  | cons edge es ih =>
    obtain ⟨ha,hl⟩ := exec_alongEdge hs hrl nodes edge.1 edge.2
    rw [each,exec_bind,mapM_cons,← ha]
    generalize exec (alongEdge e nodes edge.1 edge.2) h = p at hl ⊢
    obtain ⟨answer,h₁⟩ := p
    cases answer with
    | error f => exact ⟨rfl,hl⟩
    | ok o =>
      obtain ⟨hr,he⟩ := ih hl
      simp only [exec_bind,exec_pure]
      generalize exec (each _ es) h₁ = q at hr he ⊢
      obtain ⟨answer,h₂⟩ := q
      cases hal : es.mapM fun edge => (g.edgeSays e nodes edge.1 edge.2).map fst with
      | error f =>
        rw [hal] at hr
        cases hr
        exact ⟨rfl,he⟩
      | ok os =>
        rw [hal] at hr
        cases hr
        exact ⟨rfl,he⟩

lemma mem_keys_of_eqFields (h : Value.eqFields b b') (hk : k ∈ b.map fst) : k ∈ b'.map fst := by
  induction b with
  | nil => simp at hk
  | cons f b ih =>
    obtain ⟨k',v⟩ := f
    simp only [Value.eqFields,Bool.and_eq_true] at h
    rcases mem_cons.1 hk with rfl | hk
    · cases hw : b'.lookup k with
      | none => simp [hw] at h
      | some w =>
        obtain ⟨l,l',rfl,-⟩ := lookup_eq_some_iff.1 hw
        simp
    · exact ih h.2 hk

namespace Net

def Proper (g : Net) : Prop := ∀ i, ((g.attributes i).map fst).Nodup

lemma Proper.data (hg : g.Proper) (hr : g.Relinked h) (i : Nat) : ((h.data i).map fst).Nodup := by
  have hn : ((h.attributes i).map fst).Nodup := hr.attributes i ▸ hg i
  rcases h.data_cases i with hd | ⟨v,hd⟩
  · rwa [hd]
  · rw [hd,Fields.insert_eq_upsert]
    exact nodup_upsert hn ..

lemma Proper.blockType?_of_alike (hg : g.Proper) (hr : g.Relinked h)
    (ha : h.alike i j) (hj : blockType? (g.attributes j) = some name) : blockType? (g.attributes i) = some name := by
  rw [← hr.attributes,← h.blockType?_data] at hj ⊢
  simp only [alike,Bool.or_eq_true,beq_iff_eq,Bool.and_eq_true,decide_eq_true_eq] at ha
  rcases ha with rfl | ⟨-,heq⟩
  · exact hj
  simp only [Value.eq,Bool.and_eq_true,beq_iff_eq] at heq
  obtain ⟨w,hw,ht⟩ := Option.bind_eq_some_iff.1 hj
  -- The first block has no more names than the second and as many, so it has the name of the type too.
  have hky : ((h.data i).map fst).Perm ((h.data j).map fst) := by
    refine (subperm_of_subset (hg.data hr i) fun k hk => mem_keys_of_eqFields heq.2 hk).perm_of_length_le ?_
    simp [heq.1]
  have hm : "resource_type" ∈ (h.data i).map fst := by
    obtain ⟨l,l',hl,-⟩ := lookup_eq_some_iff.1 hw
    rw [hky.mem_iff,hl]
    simp
  have hs : ((h.data i).lookup "resource_type").isSome := by
    obtain ⟨f,hf,hn⟩ := mem_map.1 hm
    exact hn ▸ isSome_lookup hf
  obtain ⟨v,hv⟩ := Option.isSome_iff_exists.1 hs
  rw [blockType?,hv,Option.bind_some]
  exact text?_of_eq_right (eq_of_eqFields heq.2 hv hw) ht

lemma mem_nodes_of_isOfType (h : isOfType names (g.attributes i)) : i ∈ g.nodes := by
  refine mem_range.2 (Nat.lt_of_not_le fun hle => ?_)
  simp [isOfType,blockType?,attributes_of_size_le hle] at h

def named (g : Net) (names : List String) : List Nat := g.nodes.filter fun i => isOfType names (g.attributes i)

lemma mem_named : i ∈ g.named names ↔ OfType names (g.attributes i) := by
  rw [named,mem_filter,isOfType_iff]
  exact ⟨And.right,fun h => ⟨mem_nodes_of_isOfType ((isOfType_iff _ _).2 h),h⟩⟩

lemma Proper.isAmong_named (hg : g.Proper) (hr : g.Relinked h) (names : List String) (i : Nat) :
    h.isAmong i (g.named names) = (g.named names).contains i := by
  refine Bool.eq_iff_iff.2 ⟨fun ha => ?_,fun hm => by simp only [isAmong,hm,Bool.true_or]⟩
  simp only [isAmong,Bool.or_eq_true,any_eq_true] at ha
  rcases ha with hm | ⟨j,hj,hal⟩
  · exact hm
  · obtain ⟨name,hn,ht⟩ := mem_named.1 hj
    rw [contains_iff_mem]
    exact mem_named.2 ⟨name,hn,hg.blockType?_of_alike hr hal ht⟩

/-- The types of two blocks are those of the ends of a connection, one way or the other. -/
def Associated (g : Net) (ts us : List String) (x y : Nat) : Prop :=
  OfType ts (g.attributes x) ∧ OfType us (g.attributes y) ∨ OfType us (g.attributes x) ∧ OfType ts (g.attributes y)

end Net

inductive Way where
  | direct
  | through (output : Nat)

def Way.first : Way → Nat → Nat → Nat × Nat
  | .direct,x,y => (x,y)
  | .through o,x,_ => (x,o)

namespace Net

def Leads (g : Net) : Way → Nat → Nat → Prop
  | .direct,x,y => (x,y) ∈ g.edges
  | .through o,x,y => g.isOutput o ∧ (x,o) ∈ g.edges ∧ (o,y) ∈ g.edges

def Connects (g : Net) (ts us : List String) (way : Way) (x y : Nat) : Prop := g.Leads way x y ∧ g.Associated ts us x y

/-- Those of the types, and outputs. -/
def watched (g : Net) (ts us : List String) : List Nat :=
  g.nodes.filter fun i => isOfType (ts ++ us) (g.attributes i) || g.isOutput i

/-- All of them if none is of the first types. -/
def searched (g : Net) (ts us : List String) : List Nat := if (g.named ts).isEmpty then g.nodes else g.watched ts us

/-- The connections that a run sees. From a block of the first types only one of the other types is looked for, even
if the block is of both. Of an output the first edge is followed, unless the output is such an end itself. -/
def Counts (g : Net) (ts us : List String) : Way → Nat → Nat → Prop
  | .direct,x,y => OfType ts (g.attributes x) → OfType us (g.attributes y)
  | .through o,x,y =>
    (g.out (g.watched ts us) o).head? = some (o,y) ∧
      ¬ (g.Associated ts us x o ∧ (OfType ts (g.attributes x) → OfType us (g.attributes o)))

def Found (g : Net) (ts us : List String) (way : Way) (x y : Nat) : Prop :=
  g.Connects ts us way x y ∧ g.Counts ts us way x y

def endsOf (g : Net) (ts us : List String) : Ends :=
  {types := .oneOf ts, connected := .oneOf us, under := g.named ts, opposite := g.named us, excluded := []}

lemma text?_typeOf (g : Net) (i : Nat) : (g.typeOf i).text? = blockType? (g.attributes i) := by
  unfold typeOf blockType? get?
  cases (g.attributes i).lookup "resource_type" <;> rfl

lemma has_typeOf (names : List String) (i : Nat) :
    (TypeNames.oneOf names).has (g.typeOf i) = .ok (isOfType names (g.attributes i)) := by
  rw [TypeNames.has,text?_typeOf,isOfType]
  cases blockType? (g.attributes i) <;> rfl

lemma ends_oneOf (hts : ts ≠ []) (hus : us ≠ []) : g.ends (.oneOf ts) (.oneOf us) g.nodes [] = .ok (g.endsOf ts us) := by
  simp only [ends,ofTypes_oneOf hts,ofTypes_oneOf hus,ok_bind,pure_eq_ok,endsOf,named,Ends.isAmong_nil,filter_false]

lemma reduced_oneOf (hts : ts ≠ []) (link : Link) :
    g.reduced (.connection link (.oneOf ts) (.oneOf us)) g.nodes = .ok (g.searched ts us) := by
  simp only [reduced,Condition.endTypes,ofTypes_oneOf hts,ok_bind,TypeNames.members,text?_typeOf]
  show (if (g.named ts).isEmpty then pure g.nodes else pure (g.watched ts us)) = _
  unfold searched
  split <;> rfl

lemma Proper.settled (hg : g.Proper) (ts us : List String) : (g.endsOf ts us).Settled g := by
  intro h hr vs hvs i
  simp only [endsOf,mem_cons,not_mem_nil,or_false] at hvs
  rcases hvs with rfl | rfl | rfl
  · exact hg.isAmong_named hr ts i
  · exact hg.isAmong_named hr us i
  · rfl

lemma mem_far :
    v ∈ (g.endsOf ts us).far u ↔ g.Associated ts us u v ∧ (OfType ts (g.attributes u) → OfType us (g.attributes v)) := by
  have hun : (g.named ts).contains u ↔ OfType ts (g.attributes u) := by rw [contains_iff_mem,mem_named]
  have ho : (g.named us).contains u ↔ OfType us (g.attributes u) := by rw [contains_iff_mem,mem_named]
  show v ∈ (if (g.named ts).contains u then g.named us else if (g.named us).contains u then g.named ts else []) ↔ _
  unfold Associated
  by_cases hu : OfType ts (g.attributes u)
  · rw [if_pos (hun.2 hu),mem_named]
    grind
  · rw [if_neg (mt hun.1 hu)]
    by_cases hu' : OfType us (g.attributes u)
    · rw [if_pos (ho.2 hu'),mem_named]
      grind
    · rw [if_neg (mt ho.1 hu')]
      simp [hu,hu']

lemma not_associated_of_far (h : (g.endsOf ts us).far u = []) : ¬ g.Associated ts us u w := by
  have hf : ∀ v, ¬ (g.Associated ts us u v ∧ (OfType ts (g.attributes u) → OfType us (g.attributes v))) := by
    intro v hv
    rw [← mem_far,h] at hv
    exact not_mem_nil hv
  -- A block of both kinds is associated with itself.
  have hs := hf u
  have hw := hf w
  unfold Associated at *
  grind

lemma associates_oneOf (ts us : List String) (u w : Nat) :
    ∃ b, associates (.oneOf ts) (.oneOf us) (g.typeOf u) (g.typeOf w) = .ok b ∧ (b ↔ g.Associated ts us u w) := by
  simp only [associates,has_typeOf,Associated,← isOfType_iff,ok_bind,pure_eq_ok]
  cases isOfType ts (g.attributes u) <;> cases isOfType us (g.attributes w) <;>
    cases isOfType us (g.attributes u) <;> cases isOfType ts (g.attributes w) <;> simp

lemma exists_edgeSays (ts us : List String) (nodes : List Nat) (u v : Nat) :
    ∃ o b, g.edgeSays (g.endsOf ts us) nodes u v = .ok (o,b) ∧ ∀ x, x ∈ o.passed ↔
      v ∈ (g.endsOf ts us).far u ∧ (x = u ∨ x = v) ∨ v ∉ (g.endsOf ts us).far u ∧ g.isOutput v ∧
          ∃ w, (g.out nodes v).head? = some (v,w) ∧ g.Associated ts us u w ∧ (x = u ∨ x = w) := by
  have he : (g.endsOf ts us).excluded = [] := rfl
  by_cases hem : (g.endsOf ts us).far u = []
  · refine ⟨{},false,by simp [edgeSays,hem],fun x => ?_⟩
    simp [hem,not_associated_of_far hem]
  by_cases hv : v ∈ (g.endsOf ts us).far u
  · refine ⟨{passed := [u,v]},true,by simp [edgeSays,hem,hv,he],fun x => ?_⟩
    simp [hv]
  by_cases ho : g.isOutput v
  · cases hed : g.out nodes v with
    | nil => exact ⟨{},false,by simp [edgeSays,hem,hv,ho,hed],by simp [hv]⟩
    | cons edge rest =>
      obtain ⟨v',w⟩ := edge
      obtain rfl : v' = v := (mem_out.1 (hed ▸ mem_cons_self : (v',w) ∈ g.out nodes v)).2.1
      obtain ⟨b,hb,hi⟩ := g.associates_oneOf ts us u w
      refine ⟨if b then {passed := [u,w]} else {},false,?_,fun x => ?_⟩
      · simp only [edgeSays,List.isEmpty_iff,hem,if_false,List.contains_iff_mem,hv,ho,if_true,hed]
        show (associates (.oneOf ts) (.oneOf us) _ _ >>= _) = _
        rw [hb]
        rfl
      · cases b <;> simp_all
  · exact ⟨{},false,by simp [edgeSays,hem,hv,ho],by simp [hv,ho]⟩

lemma Associated.isOfType (h : g.Associated ts us x y) :
    isOfType (ts ++ us) (g.attributes x) ∧ isOfType (ts ++ us) (g.attributes y) := by
  have hl : ∀ i, OfType ts (g.attributes i) → OfType (ts ++ us) (g.attributes i) := fun i ⟨name,hn,ht⟩ =>
    ⟨name,mem_append_left _ hn,ht⟩
  have hr : ∀ i, OfType us (g.attributes i) → OfType (ts ++ us) (g.attributes i) := fun i ⟨name,hn,ht⟩ =>
    ⟨name,mem_append_right _ hn,ht⟩
  rw [isOfType_iff,isOfType_iff]
  rcases h with ⟨hx,hy⟩ | ⟨hx,hy⟩
  · exact ⟨hl x hx,hr y hy⟩
  · exact ⟨hr x hx,hl y hy⟩

lemma Associated.mem_watched (h : g.Associated ts us x y) : x ∈ g.watched ts us ∧ y ∈ g.watched ts us := by
  obtain ⟨hx,hy⟩ := h.isOfType
  exact ⟨mem_filter.2 ⟨mem_nodes_of_isOfType hx,by simp [hx]⟩,mem_filter.2 ⟨mem_nodes_of_isOfType hy,by simp [hy]⟩⟩

lemma mem_watched_of_isOutput (h : g.isOutput i) : i ∈ g.watched ts us := by
  refine mem_filter.2 ⟨mem_range.2 (Nat.lt_of_not_le fun hle => ?_),by simp [h]⟩
  simp [isOutput,get?,attributes_of_size_le hle] at h

lemma Associated.searched_eq (h : g.Associated ts us x y) : g.searched ts us = g.watched ts us := by
  have hs : ∃ i, i ∈ g.named ts := by
    rcases h with ⟨hx,-⟩ | ⟨-,hy⟩
    · exact ⟨x,mem_named.2 hx⟩
    · exact ⟨y,mem_named.2 hy⟩
  obtain ⟨i,hi⟩ := hs
  exact if_neg fun he => by simp [isEmpty_iff.1 he] at hi

lemma exists_says_found (he : (u,v) ∈ g.edges) :
    ∃ o, (g.edgeSays (g.endsOf ts us) (g.searched ts us) u v).map fst = .ok o ∧
      ∀ x, x ∈ o.passed ↔ ∃ way y z, g.Found ts us way y z ∧ way.first y z = (u,v) ∧ (x = y ∨ x = z) := by
  obtain ⟨o,b,ha,hp⟩ := g.exists_edgeSays ts us (g.searched ts us) u v
  refine ⟨o,by rw [ha]; rfl,fun x => (hp x).trans ⟨?_,?_⟩⟩
  · rintro (⟨hfa,hx⟩ | ⟨hfa,ho,w,hh,hac,hx⟩)
    · obtain ⟨hac,hc⟩ := mem_far.1 hfa
      exact ⟨.direct,u,v,⟨⟨he,hac⟩,hc⟩,rfl,hx⟩
    · rw [hac.searched_eq] at hh
      have hl : (v,w) ∈ g.edges := (mem_out.1 (mem_of_head? hh)).1
      exact ⟨.through v,u,w,⟨⟨⟨ho,he,hl⟩,hac⟩,hh,mt mem_far.2 hfa⟩,rfl,hx⟩
  · rintro ⟨way,y,z,hf,hfr,hx⟩
    cases way with
    | direct =>
      obtain ⟨⟨-,hac⟩,hc⟩ := hf
      cases hfr
      exact .inl ⟨mem_far.2 ⟨hac,hc⟩,hx⟩
    | through output =>
      obtain ⟨⟨⟨ho,-⟩,hac⟩,hh,hn⟩ := hf
      cases hfr
      exact .inr ⟨mt mem_far.1 hn,ho,z,hac.searched_eq ▸ hh,hac,hx⟩

lemma Found.first_mem (h : g.Found ts us way x y) : way.first x y ∈ g.edgesInOrder (g.searched ts us) := by
  obtain ⟨⟨hl,ha⟩,-⟩ := h
  rw [ha.searched_eq,mem_edgesInOrder]
  cases way with
  | direct => exact ⟨hl,ha.mem_watched⟩
  | through output => exact ⟨hl.2.1,ha.mem_watched.1,mem_watched_of_isOutput hl.1⟩

end Net

lemma exec_connection (hs : e.Settled g) (link : Link) (nodes : List Nat) :
    ∃ h, g.Relinked h ∧ exec (connection link e nodes) g =
      ((g.said e nodes (g.edgesInOrder nodes)).map (h.concluded link e),h) := by
  obtain ⟨ha,hl⟩ := exec_alongEdges hs (.refl g) nodes (g.edgesInOrder nodes)
  refine ⟨_,hl,?_⟩
  rw [connection,exec_get_bind,exec_bind]
  generalize exec (alongEdges e nodes (g.edgesInOrder nodes)) g = p at ha hl ⊢
  obtain ⟨answer,h⟩ := p
  obtain rfl : answer = g.said e nodes (g.edgesInOrder nodes) := ha
  cases g.said e nodes (g.edgesInOrder nodes) with
  | error f => rfl
  | ok o => rfl

lemma exec_policy_connection (hts : ts ≠ []) (hus : us ≠ []) (link : Link) :
    exec (policy (.connection link (.oneOf ts) (.oneOf us))) g =
      exec (connection link (g.endsOf ts us) (g.searched ts us)) g := by
  rw [policy,exec_get_bind]
  simp only [Net.ends_oneOf hts hus,Net.reduced_oneOf hts,exec_bind,exec_lift]

theorem connection_passes_iff_counts {p : Rule} {ts us : List String}
    (hp : p.condition = .connection .linked (.oneOf ts) (.oneOf us)) (hts : ts ≠ []) (hus : us ≠ []) {g : Net}
    (hg : g.Proper) : ∃ o h, p.apply g = (.ok o,h) ∧ ∀ x, x ∈ o.passed ↔ ∃ y way,
      g.Connects ts us way x y ∧ g.Counts ts us way x y ∨ g.Connects ts us way y x ∧ g.Counts ts us way y x := by
  have hall : ∀ edge ∈ g.edgesInOrder (g.searched ts us), ∃ o,
      (g.edgeSays (g.endsOf ts us) (g.searched ts us) edge.1 edge.2).map Prod.fst = .ok o ∧ ∀ x, x ∈ o.passed ↔
        ∃ way y z, g.Found ts us way y z ∧ way.first y z = edge ∧ (x = y ∨ x = z) := fun edge hedge =>
    Net.exists_says_found (Net.mem_edgesInOrder.1 hedge).1
  obtain ⟨os,hos⟩ := exists_mapM_iff.2 fun edge hedge => (hall edge hedge).imp fun _ => And.left
  obtain ⟨h,-,hrun⟩ := exec_connection (hg.settled ts us) .linked (g.searched ts us)
  refine ⟨h.concluded .linked (g.endsOf ts us) (.joined os),h,?_,fun x => ?_⟩
  · show exec (Run.policy p.condition) g = _
    rw [hp,exec_policy_connection hts hus,hrun,Net.said,hos]
    rfl
  refine (mem_flatMap_of_mapM hos (·.passed) x).trans ⟨?_,?_⟩
  · rintro ⟨edge,hedge,o,ho,hx⟩
    obtain ⟨o',ho',hpassed⟩ := hall edge hedge
    cases ho.symm.trans ho'
    obtain ⟨way,y,z,hfound,-,rfl | rfl⟩ := (hpassed x).1 hx
    · exact ⟨z,way,.inl hfound⟩
    · exact ⟨y,way,.inr hfound⟩
  · -- Both ends pass by the first edge of the way.
    have hend : ∀ {way y z}, g.Found ts us way y z → x = y ∨ x = z →
        ∃ edge ∈ g.edgesInOrder (g.searched ts us), ∃ o,
          (g.edgeSays (g.endsOf ts us) (g.searched ts us) edge.1 edge.2).map Prod.fst = .ok o ∧ x ∈ o.passed := by
      intro way y z hfound hx
      obtain ⟨o,ho,hpassed⟩ := hall _ hfound.first_mem
      exact ⟨_,hfound.first_mem,o,ho,(hpassed x).2 ⟨way,y,z,hfound,rfl,hx⟩⟩
    rintro ⟨y,way,hfound | hfound⟩
    · exact hend hfound (.inl rfl)
    · exact hend hfound (.inr rfl)

def typedBlock (blockType id type : String) : Fields :=
  [("block_type_",.str blockType),("id_",.str id),("source_","Terraform"),("file_path_","/main.tf"),
    ("hash",.str id),("resource_type",.str type)]

/-- A net leads to a host, a host through an output to a host and a net, and a host to a net. -/
def crossedNet : Net :=
  .ofParts
    [typedBlock "resource" "host.a" "host",typedBlock "resource" "net.b" "net",typedBlock "resource" "host.c" "host",
      typedBlock "output" "output.d" "",typedBlock "resource" "host.e" "host",typedBlock "resource" "net.f" "net",
      typedBlock "resource" "net.g" "net"]
    [(1,0),(2,3),(3,4),(3,5),(4,6)]

lemma proper_crossedNet : crossedNet.Proper := by
  have hs : crossedNet.vertices.size = 7 := by decide +kernel
  have ha : ∀ i < 7, ((crossedNet.attributes i).map fst).Nodup := by decide +kernel
  intro i
  by_cases hi : i < 7
  · exact ha i hi
  · rw [Net.attributes_of_size_le (by omega)]
    simp

/-- Of three connections one is found: a net counts as the first end only, and the output leads to the host first. -/
theorem connection_passes_iff_counts_crossed :
    ∃ o h, (policyOn (.connection .linked (.oneOf ["host","net"]) (.oneOf ["net"]))).apply crossedNet = (.ok o,h) ∧
      o.passed = [4,6] ∧ (∃ y way, crossedNet.Found ["host","net"] ["net"] way 4 y ∨
        crossedNet.Found ["host","net"] ["net"] way y 4) ∧ (crossedNet.Connects ["host","net"] ["net"] .direct 1 0 ∧
        ¬ crossedNet.Counts ["host","net"] ["net"] .direct 1 0) ∧
      crossedNet.Connects ["host","net"] ["net"] (.through 3) 2 5 ∧
        ¬ crossedNet.Counts ["host","net"] ["net"] (.through 3) 2 5 := by
  obtain ⟨o,h,hrun,hpassed⟩ :=
    connection_passes_iff_counts (p := policyOn (.connection .linked (.oneOf ["host","net"]) (.oneOf ["net"]))) rfl
      (by simp) (by simp) proper_crossedNet
  have hlist : o.passed = [4,6] := by
    have hverdicts : ((policyOn (.connection .linked (.oneOf ["host","net"]) (.oneOf ["net"]))).apply
        crossedNet).1.toOption.map (·.passed) = some [4,6] := by decide +kernel
    simpa [hrun,Except.toOption] using hverdicts
  have htype : ∀ {i : Nat} {names : List String}, isOfType names (crossedNet.attributes i) = true →
      OfType names (crossedNet.attributes i) := (isOfType_iff _ _).1
  have hback : crossedNet.Connects ["host","net"] ["net"] .direct 1 0 :=
    ⟨show (1,0) ∈ crossedNet.edges by decide +kernel,.inr ⟨htype (by decide +kernel),htype (by decide +kernel)⟩⟩
  have hthrough : crossedNet.Connects ["host","net"] ["net"] (.through 3) 2 5 :=
    ⟨⟨by decide +kernel,by decide +kernel,by decide +kernel⟩,
      .inl ⟨htype (by decide +kernel),htype (by decide +kernel)⟩⟩
  refine ⟨o,h,hrun,hlist,(hpassed 4).1 (by simp [hlist]),⟨hback,fun hcounts => ?_⟩,hthrough,fun hcounts => ?_⟩
  · have hmem : 1 ∈ o.passed := (hpassed 1).2 ⟨0,.direct,.inl ⟨hback,hcounts⟩⟩
    simp [hlist] at hmem
  · have hmem : 2 ∈ o.passed := (hpassed 2).2 ⟨5,.through 3,.inl ⟨hthrough,hcounts⟩⟩
    simp [hlist] at hmem

end InfraAudit.Policy
