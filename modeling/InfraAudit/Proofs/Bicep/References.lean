import InfraAudit.Bicep.Rendering
import InfraAudit.Proofs.Success

/-!
A reference leads to the last block with the name it gives, whichever file that block is of, and never to the first block
of all. So it leads to the block of its own file just if no later file has a block of the name and the block is not the
first one.
-/

namespace InfraAudit.Bicep

open List InfraAudit.Graph

variable {vs : Array Block} {d i : Nat}

/-- The last block of the name is at `d`. -/
def LastNamed (vs : Array Block) (n : String) (d : Nat) : Prop :=
  (∃ b, vs[d]? = some b ∧ b.name = n) ∧ ∀ k b, d < k → vs[k]? = some b → b.name ≠ n

lemma LastNamed.unique (hd : LastNamed vs n d) (hk : LastNamed vs n k) : d = k := by
  obtain ⟨⟨b,hb,hbn⟩,hlast⟩ := hd
  obtain ⟨⟨c,hc,hcn⟩,hlast'⟩ := hk
  rcases Nat.lt_trichotomy d k with hlt | rfl | hgt
  · exact absurd hcn (hlast k c hlt hc)
  · rfl
  · exact absurd hbn (hlast' d b hgt hb)

lemma lastNamed_of_numberOf? (h : numberOf? vs n = some d) : LastNamed vs n d := by
  obtain ⟨⟨b,k⟩,hl,hk⟩ := Option.map_eq_some_iff.1 h
  obtain rfl : k = d := hk
  obtain ⟨ys,hys⟩ := getLast?_eq_some_iff.1 hl
  have hnamed {c : Block} {j : Nat} : (c,j) ∈ ys ++ [(b,k)] ↔ vs[j]? = some c ∧ c.name = n := by
    simp [← hys,mem_zipIdx_iff_getElem?]
  -- the numbers increase along the list, so nothing of the name comes after its last entry
  have hsorted : (ys ++ [(b,k)]).Pairwise fun p q => p.2 < q.2 := by
    rw [← hys]
    refine Pairwise.filter _ (pairwise_map.1 ?_)
    rw [zipIdx_map_snd]
    exact pairwise_lt_range'
  refine ⟨⟨b,hnamed.1 (by simp)⟩,fun j c hj hc hn => ?_⟩
  rcases mem_append.1 (hnamed.2 ⟨hc,hn⟩) with hm | hm
  · exact absurd ((pairwise_append.1 hsorted).2.2 _ hm _ (mem_singleton_self _)) (Nat.lt_asymm hj)
  · cases mem_singleton.1 hm
    exact absurd hj (Nat.lt_irrefl _)

lemma numberOf?_eq_some : numberOf? vs n = some d ↔ LastNamed vs n d := by
  refine ⟨lastNamed_of_numberOf?,fun hd => ?_⟩
  cases hk : numberOf? vs n with
  | some k => rw [hd.unique (lastNamed_of_numberOf? hk)]
  | none =>
    obtain ⟨⟨b,hb,hn⟩,-⟩ := hd
    rw [numberOf?,Option.map_eq_none_iff,getLast?_eq_none_iff,filter_eq_nil_iff] at hk
    exact absurd (by simpa using hn) (hk (b,d) (mem_zipIdx_iff_getElem?.2 (by simpa using hb)))

lemma mem_edgesFor : e ∈ edgesFor vs i label element ↔
    LastNamed vs (referredName element) e.dest ∧ e.dest ≠ 0 ∧ e.origin ≠ e.dest ∧ e.origin = i ∧ e.label = label := by
  rw [← numberOf?_eq_some]
  obtain ⟨o,dest,l⟩ := e
  unfold edgesFor between
  rcases numberOf? vs (referredName element) with _ | _ | d <;> grind

/-- An attribute of the block, or an item of it, is an element whose first part is the name. -/
def Refers (b : Block) (label n : String) : Prop :=
  ∃ v, (label,v) ∈ b.attributes ∧ ∃ s ∈ referencesIn v, referredName s = n

lemma mem_edges_iff (h : graphOf files false = .ok g) :
    e ∈ g.edges ↔ e.origin < g.vertices.size ∧ ∃ n, Refers (g.vertex e.origin) e.label n ∧
      LastNamed g.vertices n e.dest ∧ e.dest ≠ 0 ∧ e.origin ≠ e.dest := by
  obtain ⟨blocks,-,h⟩ := bind_eq_ok.1 h
  obtain rfl := Except.ok.inj h
  simp only [connected,vertex,mem_flatMap,mem_range,mem_edgesFor]
  constructor
  · rintro ⟨i,hi,⟨l,v⟩,hv,s,hs,hd,h0,hne,rfl,rfl⟩
    exact ⟨hi,_,⟨v,hv,s,hs,rfl⟩,hd,h0,hne⟩
  · rintro ⟨hi,_,⟨v,hv,s,hs,rfl⟩,hd,h0,hne⟩
    exact ⟨e.origin,hi,(e.label,v),hv,s,hs,hd,h0,hne,rfl,rfl⟩

/-- No file has two blocks of one name. -/
def NamedApart (vs : Array Block) : Prop := (vs.toList.map fun b => (b.path,b.name)).Nodup

lemma NamedApart.eq_of_named (hu : NamedApart vs) (hb : vs[i]? = some b) (hc : vs[d]? = some c)
    (hp : b.path = c.path) (hn : b.name = c.name) : i = d := by
  rw [← Array.getElem?_toList] at hb hc
  refine (getElem?_inj ?_ hu (j := d)).1 ?_
  · simpa using (List.getElem?_eq_some_iff.1 hb).1
  · simp [hb,hc,hp,hn]

/-- Whether or not the two blocks are of the same file. -/
theorem edge_iff_refers_to_last {files : List DeclarationFile} (h : graphOf files false = .ok g)
    (hu : NamedApart g.vertices) (e : Edge) :
    e ∈ g.edges ↔ ∃ b c, g.vertices[e.origin]? = some b ∧ g.vertices[e.dest]? = some c ∧ Refers b e.label c.name ∧
      e.origin ≠ e.dest ∧ e.dest ≠ 0 ∧
      ∀ k d, e.dest < k → g.vertices[k]? = some d → d.path ≠ c.path → d.name ≠ c.name := by
  rw [mem_edges_iff h]
  constructor
  · rintro ⟨hi,n,hr,⟨⟨c,hc,rfl⟩,hlast⟩,h0,hne⟩
    have hb : g.vertices[e.origin]? = some (g.vertex e.origin) := by simp [Graph.vertex,hi]
    exact ⟨_,c,hb,hc,hr,hne,h0,fun k d hk hd _ => hlast k d hk hd⟩
  · rintro ⟨b,c,hb,hc,hr,hne,h0,hlast⟩
    obtain ⟨hi,rfl⟩ := Array.getElem?_eq_some_iff.1 hb
    refine ⟨hi,c.name,by simpa [Graph.vertex,hi] using hr,⟨⟨c,hc,rfl⟩,fun k d hk hd hn => ?_⟩,h0,hne⟩
    -- a later block of the name is of another file, since the names of a file differ
    by_cases hp : d.path = c.path
    · exact absurd (hu.eq_of_named hd hc hp hn) (Nat.ne_of_gt hk)
    · exact hlast k d hk hd hp hn

def declared (blocks : List (BlockKind × String × Fields)) : Value :=
  .dict (blocks.map fun (kind,name,fs) => (kind.heading,.dict [(name,.dict fs)]))

/-- A variable refers to the parameter above it, and the second file has a parameter of the same name. -/
def twoFiles : List DeclarationFile := [
  ⟨"/m.bicep",declared [(.parameter,"a",[("default","x")]),(.value,"b",[("value",.element "a.id")])],[]⟩,
  ⟨"/n.bicep",declared [(.parameter,"a",[("default","y")])],[]⟩]

theorem edge_iff_refers_to_last_twoFiles : ∃ g, graphOf twoFiles false = .ok g ∧ NamedApart g.vertices ∧
    ⟨1,0,"value"⟩ ∉ g.edges ∧ ⟨1,2,"value"⟩ ∈ g.edges := by
  let vs := (blocksOf twoFiles).toOption.get!.toArray
  have h : graphOf twoFiles false = .ok (connected vs) := rfl
  have hu : NamedApart vs := by
    unfold NamedApart
    decide +kernel
  refine ⟨_,h,hu,fun he => ?_,?_⟩
  · obtain ⟨-,-,-,-,-,-,h0,-⟩ := (edge_iff_refers_to_last h hu _).1 he
    exact h0 rfl
  · have hr : Refers vs[1] "value" "a" := ⟨.element "a.id",.head _,"a.id",.head _,by decide +kernel⟩
    refine (edge_iff_refers_to_last h hu _).2 ⟨_,_,rfl,rfl,hr,by decide,by decide,fun k b hk hb => ?_⟩
    have hlt : k < 3 := (Array.getElem?_eq_some_iff.1 hb).1
    exact absurd hk (Nat.not_lt.2 (Nat.le_of_lt_succ hlt))

end InfraAudit.Bicep
