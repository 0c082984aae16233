import InfraAudit.Proofs.Success
import InfraAudit.Terraform.Rendering

namespace InfraAudit.Terraform

open List ModulePath

open InfraAudit.Graph (Block)

lemma length_joinTrail_dropLast_lt (h : trail.getLast?.getD "" ≠ "") :
    (joinTrail trail.dropLast).length < (joinTrail trail).length := by
  rcases eq_nil_or_concat trail with rfl | ⟨above,file,rfl⟩
  · simp at h
  rw [concat_eq_append,dropLast_concat,joinTrail,joinTrail,Text.join,Text.join]
  by_cases ha : above = []
  · simpa [ha,Nat.pos_iff_ne_zero] using h
  · rw [String.intercalate_append_of_ne_nil ha (by simp)]
    have hm : "->".length = 2 := by decide
    simp only [String.length_append,hm]
    omega

namespace Configuration

variable {c : Configuration}

lemma mem_addCaller {number : String} {j : Nat} {es : List (String × List Nat)} {e : String × List Nat}
    (he : e ∈ addCaller number i es) (hj : j ∈ e.2) : j = i ∨ ∃ e' ∈ es, j ∈ e'.2 := by
  fun_induction addCaller number i es with
  | case1 => simp_all
  | case2 n is r hn =>
    rcases mem_cons.1 he with rfl | he
    · have hor : j ∈ is ∨ j = i := by
        dsimp only at hj
        split at hj
        · exact .inl hj
        · simpa using hj
      exact hor.symm.imp_right fun hm => ⟨_,mem_cons_self,hm⟩
    · exact .inr ⟨e,mem_cons_of_mem _ he,hj⟩
  | case3 n is r hne ih =>
    rcases mem_cons.1 he with rfl | he
    · exact .inr ⟨_,mem_cons_self,hj⟩
    · exact (ih he).imp_right fun ⟨e',he',hj'⟩ => ⟨e',mem_cons_of_mem _ he',hj'⟩

lemma of_callersOf (h : c.callersOf vs dir trail = .ok found) : ∀ e ∈ found, ∀ i ∈ e.2, i < vs.size ∧
      (vs.getD i default).path = trail.getLast?.getD "" ∧
      (vs.getD i default).dependency = joinTrail trail.dropLast := by
  refine of_foldlM (fun found => ∀ e ∈ found, ∀ i ∈ e.2, i < vs.size ∧ (vs.getD i default).path = _ ∧
    (vs.getD i default).dependency = _) ?_ (by simp) h
  rintro acc ⟨b,i⟩ acc' hb hac hs
  have hb : vs[i]? = some b := by simpa [mem_zipIdx_iff_getElem?] using hb
  dsimp only at hs
  split at hs
  · next hc =>
    simp only [Bool.and_eq_true,beq_iff_eq] at hc
    obtain ⟨dest,-,hs⟩ := bind_eq_ok.1 hs
    have ha : acc' = acc ∨ ∃ number, acc' = addCaller number i acc := by
      split at hs
      · split at hs
        · next number _ => exact .inr ⟨number,(Except.ok.inj hs).symm⟩
        · exact .inl (Except.ok.inj hs).symm
      · exact .inl (Except.ok.inj hs).symm
    rcases ha with rfl | ⟨number,rfl⟩
    · exact hac
    intro e he j hj
    rcases mem_addCaller he hj with rfl | ⟨e',he',hj'⟩
    · rw [Array.getD_eq_getD_getElem?,hb]
      exact ⟨(Array.getElem?_eq_some_iff.1 hb).1,hc.1.2,hc.2⟩
    · exact hac e' he' j hj'
  · cases hs
    exact hac

/-- The calls that bring blocks in on a way stand on shorter ways. -/
def Callers.Shorter (blocks : Array Block) (callers : Callers) : Prop :=
  ∀ e ∈ callers, ∀ n ∈ e.2, ∀ i ∈ n.2, i < blocks.size ∧ (blocks.getD i default).dependency.length < e.1.2.length

lemma Callers.Shorter.add (hp : ∀ b ∈ blocks, b.path ≠ "") (hc : callers.Shorter blocks)
    (hf : c.callersOf blocks dir trail = .ok found) :
    (callers ++ [((dir,joinTrail trail),found)] : Callers).Shorter blocks := by
  intro e he n hn i hi
  rcases mem_append.1 he with he | he
  · exact hc e he n hn i hi
  obtain rfl := mem_singleton.1 he
  obtain ⟨hs,hpt,hd⟩ := of_callersOf hf n hn i hi
  refine ⟨hs,?_⟩
  rw [hd]
  refine length_joinTrail_dropLast_lt ?_
  rw [← hpt]
  exact hp _ (by simp [hs])

lemma dependency_mark (callers : Callers) (b : Block) : (mark callers b).dependency = b.dependency := by
  unfold mark
  split <;> rfl

lemma Callers.Shorter.mark (h : callers.Shorter blocks) {b : Block} (hb : b.sourceModules = [])
    (hi : i ∈ (mark callers b).sourceModules) :
    i < blocks.size ∧ (blocks.getD i default).dependency.length < b.dependency.length := by
  unfold Configuration.mark at hi
  split at hi
  · next is hn =>
    cases hc : callers.lookup (PathName.dirname b.path,b.dependency) with
    | none => simp [hc] at hn
    | some numbers =>
      rw [hc] at hn
      exact h _ (mem_of_lookup hc) _ (mem_of_lookup hn) i hi
  · simp [hb] at hi

lemma dependency_lt_of_markModules (hp : ∀ b ∈ blocks, b.path ≠ "") (hf : ∀ b ∈ blocks, b.sourceModules = [])
    (h : c.markModules blocks = .ok vs) (hk : k < vs.size) (hi : i ∈ (vs.getD k default).sourceModules) :
    i < vs.size ∧ (vs.getD i default).dependency.length < (vs.getD k default).dependency.length := by
  obtain ⟨callers,hc,h⟩ := bind_eq_ok.1 h
  have hs : callers.Shorter blocks := by
    refine of_foldlM (Callers.Shorter blocks) ?_ (by simp [Callers.Shorter]) hc
    rintro acc ⟨dir,trails⟩ acc' - ha hd
    refine of_foldlM (Callers.Shorter blocks) (fun acc trail acc' _ ha ht => ?_) ha hd
    dsimp only at ht
    split at ht
    · cases ht
      exact ha
    obtain ⟨found,hfn,ht⟩ := bind_eq_ok.1 ht
    split at ht
    · cases ht
      exact ha
    · cases ht
      exact ha.add hp hfn
  cases h
  have hm : ∀ {j}, j < blocks.size → (blocks.map (mark callers)).getD j default = mark callers (blocks.getD j default) := by
    intro j hj
    simp [hj]
  rw [Array.size_map] at hk ⊢
  rw [hm hk] at hi ⊢
  obtain ⟨hsz,hl⟩ := hs.mark (hf _ (by simp [hk])) hi
  rw [hm hsz,dependency_mark,dependency_mark]
  exact ⟨hsz,hl⟩

end Configuration

namespace Rendering

/-- The calls above a block, from the topmost one on, as long as each is brought in by one call. -/
inductive Ascent (g : Graph) : Block → List Value → Prop
  | top {b : Block} (h : ∀ i, b.sourceModules ≠ [i]) : Ascent g b []
  | up {b : Block} {i : Nat} {trail : List Value} (h : b.sourceModules = [i]) (rest : Ascent g (g.vertex i) trail) :
    Ascent g b (trail ++ [.dict (g.vertex i).summary])

lemma ascent_of_lower {g : Graph} (way : Nat → Nat) (hl : ∀ k < g.vertices.size, ∀ i ∈ (g.vertex k).sourceModules,
    i < g.vertices.size ∧ way i < way k) (n : Nat) (hk : k < g.vertices.size)
    (hn : ((Finset.range g.vertices.size).filter (way · < way k)).card < n) :
    Ascent g (g.vertex k) (moduleTrail g n (g.vertex k)) := by
  induction n generalizing k with
  | zero => omega
  | succ n ih =>
    rcases hs : (g.vertex k).sourceModules with - | ⟨i,- | ⟨j,is⟩⟩
    · simp only [moduleTrail,hs]
      exact .top (by simp [hs])
    · simp only [moduleTrail,hs]
      obtain ⟨hi,hw⟩ := hl k hk i (by simp [hs])
      refine .up hs (ih hi ?_)
      have hlt : ((Finset.range g.vertices.size).filter (way · < way i)).card <
          ((Finset.range g.vertices.size).filter (way · < way k)).card := by
        refine Finset.card_lt_card ⟨fun j hj => ?_,fun hsb => ?_⟩
        · simp only [Finset.mem_filter] at hj ⊢
          exact ⟨hj.1,by omega⟩
        · have hsl := hsb (Finset.mem_filter.2 ⟨Finset.mem_range.2 hi,hw⟩)
          simp at hsl
      omega
    · simp only [moduleTrail,hs]
      exact .top (by simp [hs])

/-- Whatever calls there are, the way up from each block ends, and all of it is noted. -/
theorem ascent_moduleTrail (c : Configuration) {blocks vs : Array Block} (hpaths : ∀ b ∈ blocks, b.path ≠ "")
    (hfresh : ∀ b ∈ blocks, b.sourceModules = []) (h : c.markModules blocks = .ok vs) {g : Graph}
    (hg : g.vertices.map (·.sourceModules) = vs.map (·.sourceModules)) :
    ∀ b ∈ g.vertices, Ascent g b (moduleTrail g (g.vertices.size+1) b) := by
  have hsize : g.vertices.size = vs.size := by simpa using congrArg Array.size hg
  have hsame : ∀ k, (g.vertex k).sourceModules = (vs.getD k default).sourceModules := by
    intro k
    have hk := congrArg (·[k]?) hg
    simp only [Array.getElem?_map] at hk
    rw [Graph.vertex,Array.getD_eq_getD_getElem?,Array.getD_eq_getD_getElem?]
    cases hv : g.vertices[k]? <;> cases hv' : vs[k]? <;> simp_all
  intro b hb
  obtain ⟨k,hk,rfl⟩ := Array.mem_iff_getElem.1 hb
  have hvertex : g.vertices[k] = g.vertex k := by simp [Graph.vertex,hk]
  rw [hvertex]
  refine ascent_of_lower (fun i => (vs.getD i default).dependency.length) (fun k hk i hi => ?_) _ hk ?_
  · rw [hsize] at hk ⊢
    rw [hsame] at hi
    exact Configuration.dependency_lt_of_markModules hpaths hfresh h hk hi
  · have hcard := Finset.card_filter_le (Finset.range g.vertices.size)
      (fun i => (vs.getD i default).dependency.length < (vs.getD k default).dependency.length)
    rw [Finset.card_range] at hcard
    omega

def moduleCall (path name dependency source : String) : Block :=
  { kind := "module", name, path, config := .null, attributes := [("source",.list [.str source])]
    origin? := some ⟨dependency,"1"⟩ }

/-- A call of a module that calls itself. -/
def selfCalls : Array Block := #[moduleCall "/main.tf" "a" "" "./m",moduleCall "/m/main.tf" "b" "/main.tf" "../m",
  moduleCall "/m/main.tf" "b" "/main.tf->/m/main.tf" "../m"]

def selfCalling : Configuration where
  ws := default
  tree := {trails := [("/m",[["/main.tf"],["/main.tf","/m/main.tf"]])]}
  numbers := [(("/main.tf","a"),"1"),(("/m/main.tf","b"),"1")]

theorem ascent_moduleTrail_selfCalls : ∃ vs, selfCalling.markModules selfCalls = .ok vs ∧
    vs.toList.map (·.sourceModules) = [[],[0],[1]] ∧
    ∀ b ∈ vs, Ascent {vertices := vs} b (moduleTrail {vertices := vs} (vs.size+1) b) := by
  have hmarked : (selfCalling.markModules selfCalls).toOption.map (·.toList.map (·.sourceModules)) = some [[],[0],[1]] := by
    decide +kernel
  cases h : selfCalling.markModules selfCalls with
  | error f => simp [h,Except.toOption] at hmarked
  | ok vs =>
    refine ⟨vs,rfl,by simpa [h,Except.toOption] using hmarked,?_⟩
    exact ascent_moduleTrail (g := {vertices := vs}) selfCalling (by simp [selfCalls,moduleCall])
      (by simp [selfCalls,moduleCall]) h rfl

end Rendering

end InfraAudit.Terraform
