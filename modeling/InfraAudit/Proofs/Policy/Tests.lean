import InfraAudit.Policy.Verdicts
import InfraAudit.Proofs.Json.Places
import InfraAudit.Proofs.Success

namespace InfraAudit.Policy

open List Json

section

variable {σ α β : Type}

def exec (x : ExceptT Fault (StateM σ) α) (s : σ) : Result α × σ := x.run.run s

variable (s : σ)

@[simp] lemma exec_pure (a : α) : exec (pure a) s = (.ok a,s) := rfl

@[simp] lemma exec_throw (e : Fault) : exec (throw e : ExceptT Fault (StateM σ) α) s = (.error e,s) := rfl

@[simp] lemma exec_get : exec get s = (.ok s,s) := rfl

@[simp] lemma exec_lift (r : Result α) : exec (liftM r : ExceptT Fault (StateM σ) α) s = (r,s) := rfl

lemma exec_bind (x : ExceptT Fault (StateM σ) α) (f : α → ExceptT Fault (StateM σ) β) : exec (x >>= f) s =
      match exec x s with
      | (.ok a,s') => exec (f a) s'
      | (.error e,s') => (.error e,s') := by
  unfold exec ExceptT.run StateT.run
  simp only [bind,ExceptT.bind,ExceptT.mk,ExceptT.bindCont,StateT.bind]
  cases x s with
  | mk answer s' => cases answer <;> rfl

lemma exec_tryCatch (x : ExceptT Fault (StateM σ) α) (f : Fault → ExceptT Fault (StateM σ) α) :
    exec (tryCatch x f) s = match exec x s with
      | (.ok a,s') => (.ok a,s')
      | (.error e,s') => exec (f e) s' := by
  unfold exec ExceptT.run StateT.run
  simp only [tryCatch,tryCatchThe,MonadExceptOf.tryCatch,ExceptT.tryCatch,ExceptT.mk,bind,StateT.bind]
  cases x s with
  | mk answer s' => cases answer <;> rfl

end

namespace AttributeTest

variable {t : AttributeTest}

lemma settle_singleton (block : Fields) (k : Option String) : t.settle block [k] = t.holdsFor block k := by
  simp only [settle]
  cases t.holdsFor block k with
  | error e => rfl
  | ok b =>
    show (if b = t.byPath then Except.ok t.byPath else .ok b) = .ok b
    split
    · next h => rw [h]
    · rfl

lemma exec_holds (t : AttributeTest) (block : Fields) : exec t.holds block = match t.look block with
      | .ok (after,keys) => (t.answer after keys,after)
      | .error e => (.error e,block) := by
  simp only [holds,exec_bind,exec_get,exec_lift]
  cases t.look block <;> rfl

lemma withSpots_eq (block : Fields) (spots : List Spot) :
    ∃ new, withSpots block spots = block ++ new ∧ ∀ f ∈ new, block.lookup f.1 = none ∧ ∃ s ∈ spots, s.path = f.1 := by
  induction spots generalizing block with
  | nil => exact ⟨[],by simp [withSpots]⟩
  | cons s spots ih =>
    cases hh : Fields.has block s.path with
    | true =>
      obtain ⟨new,hnw,hfr⟩ := ih block
      refine ⟨new,by simp [withSpots,hh,hnw],fun f hf => ?_⟩
      obtain ⟨hn,m,hm,hp⟩ := hfr f hf
      exact ⟨hn,m,mem_cons_of_mem _ hm,hp⟩
    | false =>
      obtain ⟨new,hnw,hfr⟩ := ih (block ++ [(s.path,s.value)])
      refine ⟨(s.path,s.value) :: new,by simp [withSpots,hh,hnw],fun f hf => ?_⟩
      rcases mem_cons.1 hf with rfl | hmm
      · exact ⟨by simpa [Fields.has,Fields.get?] using hh,s,mem_cons_self,rfl⟩
      · obtain ⟨hn,m,hm,hp⟩ := hfr f hmm
        rw [lookup_append,Option.or_eq_none_iff] at hn
        exact ⟨hn.1,m,mem_cons_of_mem _ hm,hp⟩

end AttributeTest

/-- Attributes that a block does not have, under names that are not plain. -/
def Additions (block new : Fields) : Prop := ∀ f ∈ new, block.lookup f.1 = none ∧ Json.isPlain f.1 = false

lemma Additions.nil (block : Fields) : Additions block [] := by simp [Additions]

lemma Additions.append (hnw : Additions block new) (hm : Additions (block ++ new) more) :
    Additions block (new ++ more) := by
  intro f hf
  rcases mem_append.1 hf with hf | hf
  · exact hnw f hf
  · obtain ⟨hn,hp⟩ := hm f hf
    rw [lookup_append,Option.or_eq_none_iff] at hn
    exact ⟨hn.1,hp⟩

lemma AttributeTest.look_eq {t : AttributeTest} {block after : Fields} {keys : List String} (h : t.look block = .ok (after,keys)) :
    ∃ new, after = block ++ new ∧ Additions block new := by
  have hsm : ∃ new, block = block ++ new ∧ Additions block new := ⟨[],by simp,.nil block⟩
  unfold look at h
  split at h
  · cases h
    exact hsm
  · split at h
    · next name _ _ =>
      cases hr : Path.read name with
      | error e => simp [hr] at h
      | ok path =>
        cases hsl : path.select (.dict block) with
        | error e => simp [hr,hsl] at h
        | ok spots =>
          simp only [hr,hsl,ok_bind,pure_eq_ok] at h
          cases h
          obtain ⟨new,hnw,hfr⟩ := withSpots_eq block spots
          refine ⟨new,hnw,fun f hf => ?_⟩
          obtain ⟨hn,s,hs,hp⟩ := hfr f hf
          -- A place with a plain name would be an attribute that the block has.
          refine ⟨hn,Bool.eq_false_iff.2 fun hpl => ?_⟩
          rw [← hp] at hn hpl
          have hpc := Placed.find path (Placed.start block) spots hsl s hs
          simpa [Fields.has,Fields.get?,hn] using hpc.has_of_isPlain hpl
    · next name _ _ =>
      cases hr : wildcardPatterns name with
      | error e => simp [hr] at h
      | ok p =>
        simp only [hr,ok_bind,pure_eq_ok] at h
        cases h
        exact hsm

lemma Net.data_cases (g : Net) (i : Nat) :
    g.data i = g.attributes i ∨ ∃ v, g.data i = Fields.insert linkKey v (g.attributes i) := by
  rw [data,linkDepth,dataWithin]
  cases (g.vertices.getD i default).linked with
  | none => exact .inl rfl
  | some u => exact .inr ⟨_,rfl⟩

lemma Net.lookup_data (h : k ≠ linkKey) (g : Net) (i : Nat) : (g.data i).lookup k = (g.attributes i).lookup k := by
  rcases g.data_cases i with hd | ⟨v,hd⟩
  · rw [hd]
  · rw [hd,Fields.lookup_insert,if_neg h]

lemma Net.getD_modify (vs : Array Vertex) (f : Vertex → Vertex) (i j : Nat) :
    (vs.modify i f).getD j default = if i = j ∧ j < vs.size then f (vs.getD j default) else vs.getD j default := by
  simp only [Array.getD_eq_getD_getElem?,Array.getElem?_modify]
  by_cases hij : i = j
  · by_cases hj : j < vs.size
    · simp [hij,hj]
    · simp [hij,hj]
  · simp [hij]

lemma Net.attributes_store (g : Net) (i j : Nat) (fs : Fields) :
    (g.store i fs).attributes j = if i = j ∧ j < g.vertices.size then g.attributes j ++ fs else g.attributes j := by
  simp only [attributes,store,getD_modify]
  split <;> rfl

lemma Net.store_nil (g : Net) (i : Nat) : g.store i [] = g := by
  have hv : (g.vertices.modify i fun v => {v with attributes := v.attributes ++ []}) = g.vertices := by
    refine Array.ext (by simp) fun j _ _ => ?_
    rw [Array.getElem_modify]
    split
    · simp
    · rfl
  rw [store,hv]

lemma exec_atVertex (i : Nat) (test : Test Bool) (g : Net) : exec (Run.atVertex i test) g =
      ((exec test (g.data i)).1,g.store i ((exec test (g.data i)).2.drop (g.data i).length)) := rfl

lemma exec_atVertex_of_same {g : Net}
    (h : exec test (g.data i) = (answer,g.data i)) : exec (Run.atVertex i test) g = (answer,g) := by
  rw [exec_atVertex,h,drop_length,Net.store_nil]

end InfraAudit.Policy
