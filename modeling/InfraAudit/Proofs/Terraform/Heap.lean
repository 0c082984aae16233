import Mathlib.Data.Finset.Insert
import InfraAudit.Terraform.DynamicBlock
import InfraAudit.Proofs.Success

/-!
Calls that expand the blocks of a heap. A call changes a block only by writing the contents of its dynamic blocks, and always
the same ones, so the heap after some calls is known from the places that are expanded in it. A block is ready after a
number of calls that each call makes smaller by one.
-/

namespace InfraAudit.Terraform

open List Value

variable {h base : Heap} {p q k n : Nat} {key : String} {s : Slot} {cs fs : SlotFields}

/-- The blocks that it names itself or in a list. -/
def Slot.places : Slot → List Nat
  | .block p => [p]
  | .list slots => slots.filterMap fun
    | .block p => some p
    | _ => none
  | .value _ => []

lemma Slot.mem_places_of_head? (hq : s.head? = some q) : q ∈ s.places := by
  rcases s with _ | _ | r
  · cases hq
  · next slots =>
    rcases slots with _ | ⟨_ | _ | r,slots⟩
    · cases hq
    · cases hq
    · cases hq
    · cases hq
      simp [places]
  · cases hq
    exact mem_singleton_self _

namespace Heap

lemma mem_heads : q ∈ heads fs ↔ ∃ f ∈ fs, f.2.head? = some q := mem_filterMap

def content (h : Heap) : Slot → Slot
  | .block p => ((h.fields p).lookup "content").getD (.list [])
  | s => s

def shared (h : Heap) : Slot → SlotFields
  | .block p => (h.fields p).map fun f => (f.1,h.content f.2)
  | _ => []

def elementsAt (h : Heap) (p : Nat) : List Slot :=
  match (h.fields p).lookup "dynamic" with
  | some (.list es) => es
  | _ => []

def contents (h : Heap) (p : Nat) : SlotFields := (h.elementsAt p).flatMap h.shared

def written (h : Heap) (p : Nat) : SlotFields := write (h.contents p) (h.fields p)

/-- The blocks of an element. None of them is taken for dynamic blocks, and none puts something in the place of its
content. -/
def Named (h : Heap) (e : Nat) : Prop :=
  ∀ f ∈ h.fields e, f.1 ≠ "dynamic" ∧ ∃ b, f.2 = .block b ∧ "content" ∉ (h.contents b).map Prod.fst

/-- Blocks hold only blocks before them, and dynamic blocks are given in lists of elements. -/
structure Laid (h : Heap) : Prop where
  below : ∀ p, ∀ f ∈ h.fields p, ∀ q ∈ f.2.places, q < p
  elements : ∀ p s, (h.fields p).lookup "dynamic" = some s → ∃ es, s = .list es ∧ ∀ e ∈ es, ∃ q, e = .block q ∧ h.Named q

lemma put_cons (key : String) (s : Slot) (f : String × Slot) (fs : SlotFields) :
    put key s (f::fs) = if f.1 = key then (key,s) :: fs else f :: put key s fs := by
  rw [put,upsert]
  by_cases hf : f.1 = key
  · rw [if_pos (by simpa using hf),if_pos hf,hf]
  · rw [if_neg (by simpa using hf),if_neg hf]

lemma put_put (key : String) (s t : Slot) (fs : SlotFields) : put key s (put key t fs) = put key s fs := by
  induction fs with
  | nil => simp [put,upsert]
  | cons f fs ih =>
    rw [put_cons,put_cons]
    split
    · rw [put_cons,if_pos rfl]
    · next hne => rw [put_cons,if_neg hne,ih]

/-- A name that is there is written in its place, whatever is written beside it. -/
lemma put_comm {other : String} (hne : other ≠ key) (s t : Slot) (hk : key ∈ fs.map Prod.fst) :
    put key s (put other t fs) = put other t (put key s fs) := by
  induction fs with
  | nil => cases hk
  | cons f fs ih =>
    by_cases hf : f.1 = key
    · simp [put_cons,hf,hne.symm]
    · have hk' : key ∈ fs.map Prod.fst := by simpa [Ne.symm hf] using hk
      by_cases ho : f.1 = other
      · simp [put_cons,ho,hne]
      · simp [put_cons,hf,ho,ih hk']

lemma keys_put (key : String) (s : Slot) (fs : SlotFields) :
    ∀ k ∈ key :: fs.map Prod.fst, k ∈ (put key s fs).map Prod.fst := by
  induction fs with
  | nil => simp [put,upsert]
  | cons f fs ih =>
    intro k hk
    have := ih k
    rw [put_cons]
    split <;> simp only [map_cons,mem_cons] at hk this ⊢ <;> grind

lemma keys_write (fs : SlotFields) : ∀ k ∈ cs.map Prod.fst ++ fs.map Prod.fst, k ∈ (write cs fs).map Prod.fst := by
  induction cs generalizing fs with
  | nil => exact fun _ hk => hk
  | cons c cs ih =>
    intro k hk
    refine ih (put c.1 c.2 fs) k ?_
    have := keys_put c.1 c.2 fs k
    simp only [map_cons,cons_append,mem_cons,mem_append] at hk this ⊢
    tauto

lemma put_write_put (key : String) (s : Slot) (hcs : ∀ k ∈ cs.map Prod.fst, k ∈ fs.map Prod.fst) :
    put key s (write cs (put key s fs)) = put key s (write cs fs) := by
  induction cs generalizing fs with
  | nil => exact put_put key s s fs
  | cons c cs ih =>
    obtain ⟨hc,hcs⟩ := forall_mem_cons.1 hcs
    show put key s (write cs (put c.1 c.2 (put key s fs))) = put key s (write cs (put c.1 c.2 fs))
    by_cases hk : key = c.1
    · rw [← hk,put_put]
    · rw [put_comm hk c.2 s hc]
      exact ih fun k hk => keys_put c.1 c.2 fs k (mem_cons_of_mem _ (hcs k hk))

lemma write_write (cs fs : SlotFields) : write cs (write cs fs) = write cs fs := by
  induction cs using reverseRecOn with
  | nil => rfl
  | append_singleton cs c ih =>
    have ha : ∀ fs, write (cs ++ [c]) fs = put c.1 c.2 (write cs fs) := fun fs => by
      rw [write,foldl_append]
      rfl
    rw [ha,ha,put_write_put c.1 c.2 fun k hk => keys_write fs k (mem_append_left _ hk),ih]

lemma lookup_write (hk : key ∉ cs.map Prod.fst) : (write cs fs).lookup key = fs.lookup key := by
  induction cs generalizing fs with
  | nil => rfl
  | cons c cs ih =>
    obtain ⟨hc,hcs⟩ := not_or.1 (mt mem_cons.2 hk)
    refine (ih hcs).trans ((lookup_upsert ..).trans ?_)
    rw [if_neg (by simpa using hc)]

lemma mem_write {f : String × Slot} (hf : f ∈ write cs fs) : f ∈ fs ∨ f ∈ cs := by
  induction cs generalizing fs with
  | nil => exact .inl hf
  | cons c cs ih =>
    have hput : ∀ {fs : SlotFields}, f ∈ put c.1 c.2 fs → f ∈ fs ∨ f = c := by
      intro fs
      induction fs with
      | nil => exact fun hf => .inr (mem_singleton.1 hf)
      | cons g fs ih =>
        rw [put_cons]
        grind
    rcases ih hf with hf | hf
    · refine (hput hf).imp_right fun hc => ?_
      rw [hc]
      exact mem_cons_self
    · exact .inr (mem_cons_of_mem _ hf)

lemma mem_heads_write (hq : q ∈ heads (write cs fs)) : q ∈ heads fs ∨ q ∈ heads cs := by
  obtain ⟨f,hf,hq⟩ := mem_heads.1 hq
  exact (mem_write hf).imp (fun hf => mem_heads.2 ⟨f,hf,hq⟩) fun hf => mem_heads.2 ⟨f,hf,hq⟩

section

variable (hbase : base.Laid)

include hbase

lemma Laid.exists_of_mem_elementsAt {e : Slot} (he : e ∈ base.elementsAt p) :
    ∃ q < p, e = .block q ∧ base.Named q := by
  unfold elementsAt at he
  split at he
  · next es hes =>
    obtain ⟨es',heq,hall⟩ := hbase.elements p _ hes
    cases heq
    obtain ⟨q,rfl,hq⟩ := hall e he
    exact ⟨q,hbase.below p _ (mem_of_lookup hes) q (mem_filterMap.2 ⟨_,he,rfl⟩),rfl,hq⟩
  · cases he

lemma Laid.lt_of_head? {f : String × Slot} (hf : f ∈ base.fields p) (hq : f.2.head? = some q) : q < p :=
  hbase.below p f hf q (Slot.mem_places_of_head? hq)

lemma Laid.of_mem_contents {f : String × Slot} (hf : f ∈ base.contents p) :
    f.1 ≠ "dynamic" ∧ ∀ q, f.2.head? = some q → q < p := by
  obtain ⟨e,he,hf⟩ := mem_flatMap.1 hf
  obtain ⟨e,hlt,rfl,hn⟩ := hbase.exists_of_mem_elementsAt he
  obtain ⟨g,hg,rfl⟩ := mem_map.1 hf
  obtain ⟨hname,b,hb,-⟩ := hn g hg
  refine ⟨hname,fun q hq => ?_⟩
  have hbe : b < e := hbase.lt_of_head? hg (by rw [hb]; rfl)
  simp only [hb,content] at hq
  cases hc : (base.fields b).lookup "content" with
  | none =>
    rw [hc] at hq
    cases hq
  | some c =>
    rw [hc] at hq
    have hqb := hbase.lt_of_head? (mem_of_lookup hc) hq
    omega

lemma Laid.dynamic_notMem : "dynamic" ∉ (base.contents p).map Prod.fst := fun hm => by
  obtain ⟨f,hf,hname⟩ := mem_map.1 hm
  exact (hbase.of_mem_contents hf).1 hname

lemma Laid.lt_of_mem_heads (hq : q ∈ heads (base.fields p)) : q < p := by
  obtain ⟨f,hf,hq⟩ := mem_heads.1 hq
  exact hbase.lt_of_head? hf hq

lemma Laid.lt_of_mem_written (hq : q ∈ heads (base.written p)) : q < p := by
  rcases mem_heads_write hq with hq | hq
  · exact hbase.lt_of_mem_heads hq
  · obtain ⟨f,hf,hq⟩ := mem_heads.1 hq
    exact (hbase.of_mem_contents hf).2 q hq

omit hbase in
lemma Named.contents_eq (hn : base.Named q) : base.contents q = [] := by
  have hd : (base.fields q).lookup "dynamic" = none := by
    rw [lookup_eq_none_iff]
    intro f hf
    simpa using (hn f hf).1.symm
  rw [contents,elementsAt,hd]
  rfl

end

/-- What visits have made of a heap: some of its blocks are expanded. -/
structure Grown (base h : Heap) (E : Finset Nat) : Prop where
  length : h.length = base.length
  fields : ∀ p, h.fields p = if p ∈ E then base.written p else base.fields p

variable {E E' : Finset Nat}

lemma fields_set (h : Heap) (p : Nat) (fs : SlotFields) (q : Nat) :
    (fields (h.set p fs) q) = if p = q ∧ p < h.length then fs else h.fields q := by
  simp only [fields,getD_eq_getElem?_getD,getElem?_set]
  by_cases hpq : p = q
  · subst hpq
    by_cases hp : p < h.length
    · simp [hp]
    · simp [hp]
  · simp [hpq]

lemma set_fields (h : Heap) (p : Nat) : h.set p (h.fields p) = h := by
  by_cases hp : p < h.length
  · rw [fields,getD_eq_getElem _ _ hp,set_getElem_self]
  · exact set_eq_of_length_le (by omega)

lemma Grown.refl (base : Heap) : Grown base base ∅ := ⟨rfl,fun p => by simp⟩

lemma Grown.expanded (hg : Grown base h E) (p : Nat) :
    Grown base (h.set p (write (base.contents p) (h.fields p))) (insert p E) := by
  refine ⟨by rw [length_set,hg.length],fun q => ?_⟩
  have hw : write (base.contents p) (h.fields p) = base.written p := by
    rw [hg.fields p]
    split
    · exact write_write _ _
    · rfl
  rw [fields_set,hw]
  by_cases hpq : p = q
  · subst hpq
    rw [if_pos (Finset.mem_insert_self _ _)]
    split
    · rfl
    · next hp =>
      -- No block is stored there.
      have hn : base.fields p = [] := by
        rw [Heap.fields,getD_eq_default]
        rw [← hg.length]
        simpa using hp
      have he : base.elementsAt p = [] := by
        rw [elementsAt,hn]
        rfl
      rw [hg.fields p,written,contents,he,hn]
      exact ite_self _
  · rw [if_neg (by simp [hpq]),hg.fields q]
    simp [Ne.symm hpq]

section

variable (hbase : base.Laid) (hg : Grown base h E)

include hbase hg

omit hbase in
lemma Grown.lookup_eq (hk : key ∉ (base.contents p).map Prod.fst) :
    (h.fields p).lookup key = (base.fields p).lookup key := by
  rw [hg.fields p]
  split
  · exact lookup_write hk
  · rfl

omit hbase in
lemma Grown.share_eq (hn : base.Named q) : h.share (.block q) = .ok (base.shared (.block q),h) := by
  have hf : h.fields q = base.fields q := by
    rw [hg.fields q,written,hn.contents_eq]
    exact ite_self _
  have hm : (h.fields q).mapM (fun f => do return (f.1,← h.contentOf f.2)) = .ok (base.shared (.block q)) := by
    rw [hf,mapM_eq_ok,shared,forall₂_map_right_iff,forall₂_same]
    intro f hmem
    obtain ⟨-,b,hb,hk⟩ := hn f hmem
    rw [hb,contentOf,hg.lookup_eq hk]
    rfl
  unfold share
  dsimp only
  rw [ok_bind,hm]
  rfl

lemma Grown.expandAt_eq (p : Nat) :
    h.expandAt p = .ok (h.set p (write (base.contents p) (h.fields p))) := by
  have he : h.elements ((h.fields p).lookup "dynamic") = .ok (base.elementsAt p) := by
    rw [hg.lookup_eq hbase.dynamic_notMem,elementsAt]
    cases hd : (base.fields p).lookup "dynamic" with
    | none => rfl
    | some s =>
      obtain ⟨es,rfl,-⟩ := hbase.elements p s hd
      rfl
  have hs : ∀ es ⊆ base.elementsAt p, shareAll es h = .ok (es.flatMap base.shared,h) := by
    intro es
    induction es with
    | nil => exact fun _ => rfl
    | cons e es ih =>
      intro hes
      have hmem := hes mem_cons_self
      obtain ⟨q,-,rfl,hn⟩ := hbase.exists_of_mem_elementsAt hmem
      rw [shareAll,hg.share_eq hn,ok_bind]
      dsimp only
      rw [ih (Subset.trans (subset_cons_self _ _) hes)]
      rfl
  rw [expandAt,he,ok_bind,hs _ (Subset.refl _)]
  rfl

end

/-- After at most so many more visits, what a block leads to is expanded. The contents of later elements are come to only
when they stand under their names. -/
inductive Ready (base : Heap) (E : Finset Nat) : Nat → Nat → Prop
  | expanded {k p : Nat} : p ∈ E → (∀ q ∈ heads (base.written p), Ready base E k q) → Ready base E k p
  | plain {k p : Nat} : p ∉ E → base.contents p = [] → (∀ q ∈ heads (base.fields p), Ready base E k q) → Ready base E k p
  | dynamic {k p : Nat} : p ∉ E → (∀ q ∈ heads (base.fields p), Ready base E (k+1) q) →
    (∀ e ∈ (base.elementsAt p).tail, ∀ q, e.head? = some q → Ready base E k q) → Ready base E (k+1) p

namespace Ready

lemma succ (hr : Ready base E k p) : Ready base E (k+1) p := by
  induction hr with
  | expanded hp _ ih => exact .expanded hp ih
  | plain hp hc _ ih => exact .plain hp hc ih
  | dynamic hp _ _ ih ihl => exact .dynamic hp ih ihl

lemma of_le (hr : Ready base E k p) (hk : k ≤ n) : Ready base E n p := by
  induction n, hk using Nat.le_induction with
  | base => exact hr
  | succ n _ ih => exact ih.succ

/-- A field that is not written over is led to. -/
lemma of_lookup (hr : Ready base E k p) (hk : key ∉ (base.contents p).map Prod.fst)
    (hs : (base.fields p).lookup key = some s) (hq : s.head? = some q) : Ready base E k q := by
  have hf : q ∈ heads (base.fields p) := mem_heads.2 ⟨_,mem_of_lookup hs,hq⟩
  cases hr with
  | expanded _ hw => exact hw q (mem_heads.2 ⟨_,mem_of_lookup ((lookup_write hk).trans hs),hq⟩)
  | plain _ _ hf' => exact hf' q hf
  | dynamic _ hf' _ => exact hf' q hf

lemma of_mem_shared {e : Nat} (hr : Ready base E k e) (hn : base.Named e) (hq : q ∈ heads (base.shared (.block e))) :
    Ready base E k q := by
  obtain ⟨f,hf,hq⟩ := mem_heads.1 hq
  obtain ⟨g,hg,rfl⟩ := mem_map.1 hf
  obtain ⟨-,b,hb,hk⟩ := hn g hg
  have hmem : b ∈ heads (base.fields e) := mem_heads.2 ⟨g,hg,by rw [hb]; rfl⟩
  have hrb : Ready base E k b := by
    cases hr with
    | expanded _ hw =>
      refine hw b ?_
      rwa [written,hn.contents_eq]
    | plain _ _ hf' => exact hf' b hmem
    | dynamic _ hf' _ => exact hf' b hmem
  simp only [hb,content] at hq
  cases hc : (base.fields b).lookup "content" with
  | none =>
    rw [hc] at hq
    cases hq
  | some c =>
    rw [hc] at hq
    exact hrb.of_lookup hk hc hq

/-- The first element is one of the blocks that are looked into, and the later ones are ready by assumption. -/
lemma of_mem_contents (hbase : base.Laid) (hf : ∀ q ∈ heads (base.fields p), Ready base E k q)
    (hl : ∀ e ∈ (base.elementsAt p).tail, ∀ q, e.head? = some q → Ready base E k q) (hq : q ∈ heads (base.contents p)) :
    Ready base E k q := by
  obtain ⟨f,hmem,hq⟩ := mem_heads.1 hq
  obtain ⟨e,he,hmem⟩ := mem_flatMap.1 hmem
  obtain ⟨e,-,rfl,hn⟩ := hbase.exists_of_mem_elementsAt he
  refine of_mem_shared ?_ hn (mem_heads.2 ⟨f,hmem,hq⟩)
  cases hes : base.elementsAt p with
  | nil =>
    rw [hes] at he
    cases he
  | cons first later =>
    rw [hes] at he hl
    rcases mem_cons.1 he with rfl | he
    · refine hf e (mem_heads.2 ⟨("dynamic",.list (.block e :: later)),mem_of_lookup ?_,rfl⟩)
      unfold elementsAt at hes
      split at hes
      · next es hd => rw [hd,hes]
      · cases hes
    · exact hl _ he e rfl

lemma mono (hbase : base.Laid) (hE : E ⊆ E') (hr : Ready base E k p) : Ready base E' k p := by
  induction hr with
  | expanded hp _ ih => exact .expanded (hE hp) ih
  | @plain k p _ hc _ ih =>
    by_cases hp : p ∈ E'
    · refine .expanded hp ?_
      rwa [written,hc]
    · exact .plain hp hc ih
  | @dynamic k p _ _ _ ih ihl =>
    by_cases hp : p ∈ E'
    · refine .expanded hp fun q hq => ?_
      rcases mem_heads_write hq with hq | hq
      · exact ih q hq
      · exact of_mem_contents hbase ih (fun e he q hq => (ihl e he q hq).succ) hq
    · exact .dynamic hp ih ihl

end Ready

/-- A step from a heap that looks into these blocks: it gives a heap in which each of them is nearer to be ready, and the
same heap if all of them were. -/
def Advances (base h : Heap) (E : Finset Nat) (qs : List Nat) (r : Result Heap) : Prop :=
  ∃ h' E', r = .ok h' ∧ Grown base h' E' ∧ E ⊆ E' ∧ (∀ k, ∀ q ∈ qs, Ready base E (k+1) q → Ready base E' k q) ∧
    ((∀ q ∈ qs, Ready base E 0 q) → h' = h)

lemma advances_foldlM (hbase : base.Laid) {qs : List Nat}
    (hv : ∀ q ∈ qs, ∀ h E, Grown base h E → Advances base h E [q] (visit n q h)) (hg : Grown base h E) :
    Advances base h E qs (qs.foldlM (fun h q => visit n q h) h) := by
  induction qs generalizing h E with
  | nil => exact ⟨h,E,rfl,hg,Finset.Subset.refl _,by simp,fun _ => rfl⟩
  | cons q qs ih =>
    obtain ⟨hq,hqs⟩ := forall_mem_cons.1 hv
    obtain ⟨h₁,E₁,hr₁,hg₁,hE₁,hready₁,hsame₁⟩ := hq h E hg
    obtain ⟨h₂,E₂,hr₂,hg₂,hE₂,hready₂,hsame₂⟩ := ih hqs hg₁
    refine ⟨h₂,E₂,?_,hg₂,hE₁.trans hE₂,?_,?_⟩
    · rw [foldlM_cons,hr₁]
      exact hr₂
    · rintro k r hr hready
      rcases mem_cons.1 hr with rfl | hr
      · exact (hready₁ k r mem_cons_self hready).mono hbase hE₂
      · exact hready₂ k r hr (hready.mono hbase hE₁)
    · intro hready
      obtain ⟨hfirst,hrest⟩ := forall_mem_cons.1 hready
      rw [hsame₂ fun r hr => (hrest r hr).mono hbase hE₁,hsame₁ (by simpa using hfirst)]

lemma advances_visit (hbase : base.Laid) (hp : p < n) (hg : Grown base h E) : Advances base h E [p] (visit n p h) := by
  induction n generalizing p h E with
  | zero => omega
  | succ n ih =>
    have hbelow : ∀ q ∈ heads (h.fields p), q < n := by
      intro q hq
      rw [hg.fields p] at hq
      split at hq
      · exact lt_of_lt_of_le (hbase.lt_of_mem_written hq) (by omega)
      · exact lt_of_lt_of_le (hbase.lt_of_mem_heads hq) (by omega)
    obtain ⟨h₁,E₁,hr,hg₁,hE,hready,hsame⟩ := advances_foldlM hbase (fun q hq h E hg => ih (hbelow q hq) hg) hg
    have hE' : E ⊆ insert p E₁ := hE.trans (Finset.subset_insert p E₁)
    refine ⟨_,insert p E₁,?_,hg₁.expanded p,hE',?_,?_⟩
    · rw [visit,hr]
      exact hg₁.expandAt_eq hbase p
    · intro k q hq hr
      cases mem_singleton.1 hq
      rw [hg.fields p] at hready
      have hvisited {q : Nat} (hq : q ∈ heads (if p ∈ E then base.written p else base.fields p))
          (hr : Ready base E (k+1) q) : Ready base (insert p E₁) k q :=
        (hready k q hq hr).mono hbase (Finset.subset_insert p E₁)
      refine .expanded (Finset.mem_insert_self _ _) fun q hq => ?_
      cases hr with
      | expanded hp hw =>
        rw [if_pos hp] at hvisited
        exact hvisited hq (hw q hq)
      | plain hp hc hf =>
        rw [if_neg hp] at hvisited
        rw [written,hc] at hq
        exact hvisited hq (hf q hq)
      | dynamic hp hf hl =>
        rw [if_neg hp] at hvisited
        rcases mem_heads_write hq with hq | hq
        · exact hvisited hq (hf q hq)
        · exact Ready.of_mem_contents hbase (fun q hq => hvisited hq (hf q hq))
            (fun e he q hq => (hl e he q hq).mono hbase hE') hq
    · intro hr
      have hr := hr p mem_cons_self
      -- Nothing is written at the place itself that does not stand there.
      have hself : (∀ q ∈ heads (h.fields p), Ready base E 0 q) ∧ write (base.contents p) (h.fields p) = h.fields p := by
        rw [hg.fields p]
        cases hr with
        | expanded hp hw =>
          rw [if_pos hp]
          exact ⟨hw,write_write _ _⟩
        | plain hp hc hf =>
          rw [if_neg hp,hc]
          exact ⟨hf,rfl⟩
      rw [hsame hself.1,hself.2]
      exact set_fields h p

lemma exists_expandTimes (hbase : base.Laid) (hp : p ≤ base.length) (n : Nat) :
    ∃ h E, expandTimes p n base = .ok h ∧ Grown base h E ∧ ∀ k, Ready base ∅ (k+n) p → Ready base E k p := by
  induction n with
  | zero => exact ⟨base,∅,rfl,.refl base,fun _ => id⟩
  | succ n ih =>
    obtain ⟨h,E,hr,hg,hready⟩ := ih
    have hlt : p < h.length+1 := by
      rw [hg.length]
      omega
    obtain ⟨h',E',hv,hg',-,hready',-⟩ := advances_visit hbase hlt hg
    refine ⟨h',E',?_,hg',fun k hk => hready' k p mem_cons_self (hready (k+1) ?_)⟩
    · rw [expandTimes,hr]
      exact hv
    · rwa [Nat.add_right_comm,Nat.add_assoc]

lemma expandTimes_succ (hbase : base.Laid) (hp : p ≤ base.length) (hready : Ready base ∅ n p) :
    expandTimes p (n+1) base = expandTimes p n base := by
  obtain ⟨h,E,hr,hg,hready'⟩ := exists_expandTimes hbase hp n
  have hlt : p < h.length+1 := by
    rw [hg.length]
    omega
  obtain ⟨h',-,hv,-,-,-,hsame⟩ := advances_visit hbase hlt hg
  have hzero : Ready base E 0 p := hready' 0 (by rwa [Nat.zero_add])
  rw [expandTimes,hr]
  rw [ok_bind,hv,hsame (by simpa using hzero)]

lemma expandTimes_of_le (hbase : base.Laid) (hp : p ≤ base.length) (hready : Ready base ∅ k p) (hn : k ≤ n) :
    expandTimes p n base = expandTimes p k base := by
  induction n, hn using Nat.le_induction with
  | base => rfl
  | succ n hn ih => rw [expandTimes_succ hbase hp (hready.of_le hn),ih]

end Heap

end InfraAudit.Terraform
