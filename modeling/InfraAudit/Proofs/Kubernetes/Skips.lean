import InfraAudit.Kubernetes.Manifest
import InfraAudit.Proofs.Success
import InfraAudit.Proofs.Text.Dotted

/-!
Skips in the annotations of an object. They can be read just if each one names a check and has one equals sign at most.
-/

namespace InfraAudit.Kubernetes

open List Value

variable {note : String × Value} {notes fs ms : Fields}

def asksSkip (note : String × Value) : Bool :=
  Text.contains note.1 "checkov.io/skip" || Text.contains note.1 "bridgecrew.io/skip"

def namesOne (t : String) : Bool := ["CKV_K8S","BC_K8S","CKV2_K8S"].any (Text.contains t)

def Readable (note : String × Value) : Prop := ∃ t, note.2 = .str t ∧ namesOne t ∧ t.toList.count '=' ≤ 1

inductive Reads : String × Value → Suppression → Prop
  | whole (k t : String) : '=' ∉ t.toList → Reads (k,.str t) ⟨t,"No comment provided"⟩
  | parts (k i c : String) : '=' ∉ i.toList → '=' ∉ c.toList → Reads (k,.str (i ++ "=" ++ c)) ⟨i,c⟩

lemma namesCheck_str (t : String) : namesCheck (.str t) = .ok (namesOne t) := by
  have hh : ∀ k, (str t).has k = .ok (Text.contains t k) := fun _ => rfl
  simp only [namesCheck,namesOne,hh,ok_bind,any_cons,any_nil,Bool.or_false]
  cases Text.contains t "CKV_K8S" with
  | true => rfl
  | false => cases Text.contains t "BC_K8S" <;> rfl

lemma split_equals (t : String) : Text.split t "=" = (List.splitOn '=' t.toList).map String.ofList :=
  congrArg (map String.ofList) (Text.splitAux_eq '=' [] t.toList)

lemma suppressionOf_cases (k t : String) :
    (∃ s, suppressionOf (.str t) = .ok (some s) ∧ Reads (k,.str t) s ∧ Readable (k,.str t)) ∨
      (∃ e, suppressionOf (.str t) = .error e) ∧ ¬ Readable (k,.str t) := by
  have hh : (str t).has "=" = .ok (Text.contains t "=") := rfl
  have ht : (str t).asText = .ok t := rfl
  have hr : Readable (k,.str t) ↔ namesOne t ∧ t.toList.count '=' ≤ 1 := by simp [Readable]
  simp only [suppressionOf,hr,namesCheck_str,hh,ht,split_equals,ok_bind]
  cases namesOne t with
  | false => exact .inr ⟨⟨_,rfl⟩,by simp⟩
  | true =>
    -- The sign does not occur, once or more often.
    by_cases hm : '=' ∈ t.toList
    · have hc : Text.contains t "=" := Text.contains_iff.2 ((singleton_infix_iff '=' t.toList).2 hm)
      obtain ⟨a,b,hab,ha⟩ := eq_append_cons_of_mem hm
      rw [hc,hab,splitOn_append_cons_self_of_not_mem ha,count_append,count_cons_self]
      by_cases hb : '=' ∈ b
      · obtain ⟨c,d,rfl,hc⟩ := eq_append_cons_of_mem hb
        obtain ⟨x,xs,hd⟩ := exists_cons_of_ne_nil (splitOnP_ne_nil (· == '=') d)
        rw [splitOn_append_cons_self_of_not_mem hc,List.splitOn,hd,count_append,count_cons_self]
        exact .inr ⟨⟨_,rfl⟩,by omega⟩
      · rw [splitOn_eq_singleton hb,count_eq_zero.2 ha,count_eq_zero.2 hb]
        obtain rfl : t = String.ofList a ++ "=" ++ String.ofList b := String.ext (by simp [hab])
        exact .inl ⟨_,rfl,.parts k _ _ (by simpa) (by simpa),rfl,by omega⟩
    · rw [Text.contains_eq_false (by decide) hm,count_eq_zero.2 hm]
      exact .inl ⟨_,rfl,.whole k t hm,rfl,by omega⟩

lemma suppressions_eq (hm : fs.lookup "metadata" = some (.dict ms)) (ha : ms.lookup "annotations" = some (.dict notes)) :
    suppressions (.dict fs) = do
      let found ← notes.filterMapM fun n => if asksSkip n then suppressionOf n.2 else return none
      return (found,(dict fs).set! "metadata" ((dict ms).set! "annotations" (.list [.dict notes]))) := by
  have hk : ((dict ms).entries.map Prod.fst).contains (.str "annotations") := by
    rw [contains_eq_any_beq,any_eq_true]
    exact ⟨_,mem_map_of_mem (mem_map_of_mem (mem_of_lookup ha)),by rw [beq_str]; rfl⟩
  have hg : (dict fs).get? "metadata" = some (.dict ms) := hm
  have hga : (dict ms).getD "annotations" = .dict notes := by rw [Value.getD,get?,ha,Option.getD_some]
  have hks : (dict ms).keysOf = .ok ((dict ms).entries.map Prod.fst) := rfl
  have hi : suppressionsIn (.dict notes) = notes.filterMapM fun n =>
    if asksSkip n then suppressionOf n.2 else return none := rfl
  simp only [suppressions,hg,Option.getD_some,hks,ok_bind,hk,hga,← hi]
  cases h : suppressionsIn (.dict notes) <;> simp [h,isDict,isNull,listed,elems]

/-- The annotations of an object can be read just if each skip among them names a check and has one equals sign at most.
Then each skip gives one entry, of the texts around the sign, and the annotations stand in a list. -/
theorem suppressions_returns_iff {fs ms notes : Fields} (hm : fs.lookup "metadata" = some (.dict ms))
    (ha : ms.lookup "annotations" = some (.dict notes)) (ht : ∀ n ∈ notes, ∃ t, n.2 = .str t) :
    ((∃ answer, suppressions (.dict fs) = .ok answer) ↔ ∀ n ∈ notes, asksSkip n → Readable n) ∧
      ∀ found changed, suppressions (.dict fs) = .ok (found,changed) → Forall₂ Reads (notes.filter asksSkip) found ∧
        changed = (dict fs).set! "metadata" ((dict ms).set! "annotations" (.list [.dict notes])) := by
  have hc : ∀ n ∈ notes, _ := fun n hn => (ht n hn).elim fun t h => h ▸ suppressionOf_cases n.1 t
  rw [suppressions_eq hm ha]
  constructor
  · simp only [bind_eq_ok,pure_eq_ok,Except.ok.injEq]
    rw [exists_comm]
    simp only [exists_and_left,exists_eq',and_true,exists_filterMapM_iff]
    refine forall₂_congr fun n hn => ?_
    cases asksSkip n with
    | false => simp
    | true => rcases hc n hn with ⟨s,hs,-,hr⟩ | ⟨⟨e,he⟩,hr⟩ <;> simp [*]
  · intro found changed h
    obtain ⟨found,hf,h⟩ := bind_eq_ok.1 h
    cases h
    refine ⟨forall₂_filterMapM (fun n hn o ho => ?_) hf,rfl⟩
    cases hk : asksSkip n with
    | false => simpa [hk,eq_comm] using ho
    | true =>
      rw [hk,if_pos rfl] at ho
      rcases hc n hn with ⟨s,hs,hr,-⟩ | ⟨⟨e,he⟩,-⟩
      · exact .inl ⟨rfl,s,by simpa [hs,eq_comm] using ho,hr⟩
      · simp [he] at ho

def annotated (t : String) : Fields := [("metadata",.dict [("annotations",.dict [("checkov.io/skip1",.str t)])])]

theorem suppressions_returns_iff_annotated : (∃ answer, suppressions (.dict (annotated "CKV_K8S_1=why")) = .ok answer) ∧
    ¬ ∃ answer, suppressions (.dict (annotated "CKV_K8S_1=a=b")) = .ok answer := by
  have h := fun t => (suppressions_returns_iff (rfl : (annotated t).lookup "metadata" = _) rfl (by simp)).1
  simp only [h,forall_mem_singleton,Readable]
  refine ⟨fun _ => ⟨_,rfl,by decide +kernel⟩,fun hr => ?_⟩
  obtain ⟨t,ht,-,hc⟩ := hr (by decide +kernel)
  cases ht
  exact absurd hc (by decide)

end InfraAudit.Kubernetes
