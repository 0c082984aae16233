import InfraAudit.Terraform.Check
import InfraAudit.Proofs.Terraform.Heap

/-!
Repeated expansion of dynamic blocks. Contents of later blocks are come to one call after they were put under their name, so a
configuration stays as it is from as many calls on as such blocks are nested.
-/

namespace InfraAudit.Terraform

open List Value

variable {h : Heap} {k n p : Nat}

namespace Heap

/-- The elements of dynamic blocks map names to blocks. None of these is named `dynamic`, and none has a dynamic block of its
own that would be put in the place of its content. -/
def isElement (h : Heap) : Slot → Bool
  | .block e => (h.fields e).all fun
    | (name,.block b) => name != "dynamic" && (h.contents b).all (·.1 != "content")
    | _ => false
  | _ => false

/-- Whether what a block holds is stored before it, and dynamic blocks are lists of elements. -/
def isLaid (h : Heap) : Bool :=
  (range h.length).all fun p => (h.fields p).all (·.2.places.all (· < p)) &&
    match (h.fields p).lookup "dynamic" with
    | none => true
    | some (.list es) => es.all h.isElement
    | some _ => false

lemma laid_of_isLaid (hlaid : h.isLaid) : h.Laid := by
  have hplace {p : Nat} {f : String × Slot} (hf : f ∈ h.fields p) := all_eq_true.1 hlaid p (mem_range.2 (by
    by_contra hp
    rw [fields,getD_eq_default _ _ (Nat.le_of_not_lt hp)] at hf
    cases hf))
  simp only [Bool.and_eq_true] at hplace
  refine ⟨fun p f hf q hq => ?_,fun p s hs => ?_⟩
  · simpa using all_eq_true.1 (all_eq_true.1 (hplace hf).1 f hf) q hq
  · have hes := (hplace (mem_of_lookup hs)).2
    rw [hs] at hes
    cases s with
    | list es =>
      refine ⟨es,rfl,fun e he => ?_⟩
      have helem := all_eq_true.1 hes e he
      cases e with
      | block q =>
        refine ⟨q,rfl,fun f hf => ?_⟩
        have hblock := all_eq_true.1 helem f hf
        obtain ⟨name,_ | _ | b⟩ := f
        · cases hblock
        · cases hblock
        · simp only [Bool.and_eq_true,bne_iff_ne,all_eq_true] at hblock
          refine ⟨hblock.1,b,rfl,fun hm => ?_⟩
          obtain ⟨g,hg,hname⟩ := mem_map.1 hm
          exact hblock.2 g hg hname
      | value v => cases helem
      | list ss => cases helem
    | value v => cases hes
    | block b => cases hes

def nestingWithin (h : Heap) : Nat → Nat → Nat
  | 0,_ => 0
  | n+1,p =>
    let most (qs : List Nat) := (qs.map (h.nestingWithin n)).foldr max 0
    let later := most ((h.elementsAt p).tail.filterMap Slot.head?)
    max (most (heads (h.fields p))) (if (h.contents p).isEmpty then 0 else later+1)

/-- The nesting of dynamic blocks, of which those inside the first of several do not count. -/
def nesting (h : Heap) (p : Nat) : Nat := h.nestingWithin (p+1) p

lemma ready_of_nesting (hlaid : h.Laid) (hp : p < n) (hk : h.nestingWithin n p ≤ k) : Ready h ∅ k p := by
  induction n generalizing p k with
  | zero => omega
  | succ n ih =>
    have hmost {qs : List Nat} {k : Nat} (hqs : ∀ q ∈ qs, q < p)
        (hle : (qs.map (h.nestingWithin n)).foldr max 0 ≤ k) : ∀ q ∈ qs, Ready h ∅ k q := by
      induction qs with
      | nil => simp
      | cons q qs ihqs =>
        obtain ⟨hq,hqs⟩ := forall_mem_cons.1 hqs
        simp only [map_cons,foldr_cons,max_le_iff] at hle
        exact forall_mem_cons.2 ⟨ih (by omega) hle.1,ihqs hqs hle.2⟩
    rw [nestingWithin,max_le_iff] at hk
    have hfields := hmost (fun q => hlaid.lt_of_mem_heads) hk.1
    by_cases hc : (h.contents p).isEmpty
    · exact .plain (by simp) (isEmpty_iff.1 hc) hfields
    · have hk := hk.2
      rw [if_neg hc] at hk
      obtain ⟨k,rfl⟩ : ∃ j, k = j+1 := ⟨k-1,by omega⟩
      refine .dynamic (by simp) hfields fun e he q hq => hmost ?_ (Nat.le_of_succ_le_succ hk) q (mem_filterMap.2 ⟨e,he,hq⟩)
      intro q hq
      obtain ⟨e,he,hq⟩ := mem_filterMap.1 hq
      obtain ⟨b,hb,rfl,-⟩ := hlaid.exists_of_mem_elementsAt (mem_of_mem_tail he)
      cases hq
      exact hb

end Heap

lemma require_run' (key : String) (expected : List Value) (missing : Verdict) (x : Value) (s : AuditState) :
    (require key expected missing x).run' s =
      (expandCalls (s.expansions+1) s.given >>= required key expected missing) := by
  simp [require,expanded,-pure_eq_ok]

/-- Every call gives a result. Calls that are as many as dynamic blocks are nested all give the same one, and so do
value checks from the first one on that is made after them. -/
theorem expandCalls_settles {fs : Fields} {p : Nat} {base : Heap}
    (hstore : Heap.store (.dict fs) [] = (.block p,base)) (hlaid : base.isLaid) :
    (∀ n, ∃ out, expandCalls n (.dict fs) = .ok out) ∧
    (∀ n m, base.nesting p ≤ n → base.nesting p ≤ m → expandCalls n (.dict fs) = expandCalls m (.dict fs)) ∧
    ∀ key expected missing x y (s t : AuditState), s.given = .dict fs → t.given = .dict fs →
      base.nesting p ≤ s.expansions+1 → base.nesting p ≤ t.expansions+1 →
      (require key expected missing x).run' s = (require key expected missing y).run' t := by
  have hlaid := Heap.laid_of_isLaid hlaid
  have hp : p ≤ base.length := by
    rw [Heap.store] at hstore
    obtain ⟨⟨rfl⟩,rfl⟩ := Prod.mk.inj hstore
    simp
  have hready := Heap.ready_of_nesting hlaid (Nat.lt_succ_self p) (Nat.le_refl (base.nesting p))
  have hcalls (n : Nat) : expandCalls n (.dict fs) =
      (expandTimes p n base >>= fun h => .ok (h.loadAt (h.length+1) p)) := by
    rw [expandCalls,hstore]
    · rfl
    · simp
  have hsettled : ∀ n m, base.nesting p ≤ n → base.nesting p ≤ m →
      expandCalls n (.dict fs) = expandCalls m (.dict fs) := by
    intro n m hn hm
    rw [hcalls,hcalls,Heap.expandTimes_of_le hlaid hp hready hn,Heap.expandTimes_of_le hlaid hp hready hm]
  refine ⟨fun n => ?_,hsettled,?_⟩
  · obtain ⟨h,-,hr,-⟩ := Heap.exists_expandTimes hlaid hp n
    exact ⟨_,by rw [hcalls,hr]; rfl⟩
  · intro key expected missing x y s t hs ht hn hm
    rw [require_run',require_run',hs,ht,hsettled _ _ hn hm]

def laterBlock : Fields :=
  [("dynamic",.list [.dict [("a",.dict [("content",.list [])])],.dict [("b",.dict [("content",
    .list [.dict [("dynamic",.list [.dict [("c",.dict [("content",.list [.bool true])])]])]])])]])]

/-- The first check does not see the block inside the second one, and all others do. -/
theorem expandCalls_settles_laterBlock :
    let verdict n := (require "b/[0]/c" [.bool true] .failed .null).run' {given := .dict laterBlock, expansions := n}
    verdict 0 = .ok .failed ∧ ∀ n, verdict (n+1) = .ok .passed := by
  refine ⟨by decide +kernel,fun n => ?_⟩
  obtain ⟨p,base,hstore,hlaid,hnesting⟩ : ∃ p base, Heap.store (.dict laterBlock) [] = (.block p,base) ∧ base.isLaid ∧
      base.nesting p = 2 := ⟨7,_,rfl,by decide +kernel⟩
  calc (require "b/[0]/c" [.bool true] .failed .null).run' {given := .dict laterBlock, expansions := n+1}
    _ = (require "b/[0]/c" [.bool true] .failed .null).run' {given := .dict laterBlock, expansions := 1} :=
        (expandCalls_settles hstore hlaid).2.2 _ _ _ _ _ _ _ rfl rfl
          (by rw [hnesting]; exact Nat.le_add_left 2 n) (by rw [hnesting])
    _ = .ok .passed := by decide +kernel

/-- The content of a block named `dynamic` is put in the place of the dynamic blocks, and the next call takes it for
them. -/
theorem expandCalls_labelledDynamic :
    let conf := .dict [("dynamic",.list [.dict [("dynamic",.dict [("content",.list [.dict [("x",.list [.int 1])]])])]])]
    (∃ out, expandCalls 1 conf = .ok out) ∧ expandCalls 2 conf = .error .noMember :=
  ⟨⟨_,rfl⟩,rfl⟩

end InfraAudit.Terraform
