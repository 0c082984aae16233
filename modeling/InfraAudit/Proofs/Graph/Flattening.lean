import InfraAudit.Graph.Attributes
import InfraAudit.Proofs.Decimal.Numeral
import InfraAudit.Proofs.Success
import InfraAudit.Proofs.Text.Dotted

/-! Flattening is exact: what a value becomes has one entry for each path into it, the part of the value at that path. -/

namespace InfraAudit.Fields

open List

lemma nodup_update (h : (keys fs).Nodup) (new : Fields) : (keys (update fs new)).Nodup := by
  induction new generalizing fs with
  | nil => exact h
  | cons f new ih => exact ih (by simpa [keys,insert_eq_upsert] using nodup_upsert h f.1 f.2 _)

lemma lookup_update (fs new : Fields) (q : String) :
    (update fs new).lookup q = (new.reverse.lookup q).or (fs.lookup q) := by
  induction new generalizing fs with
  | nil => rfl
  | cons f new ih =>
    rw [show update fs (f::new) = update (insert f.1 f.2 fs) new from rfl,ih,lookup_insert,reverse_cons,lookup_append,
      Option.or_assoc,lookup_cons]
    split <;> rfl

lemma lookup_ofPairs (h : ∀ q v w, (q,v) ∈ ps → (q,w) ∈ ps → v = w) (q : String) (w : Value) :
    (ofPairs ps).lookup q = some w ↔ (q,w) ∈ ps := by
  rw [ofPairs,lookup_update,lookup_nil,Option.or_none]
  constructor
  · exact fun hw => mem_reverse.1 (mem_of_lookup hw)
  · intro hw
    obtain ⟨v,hv⟩ := Option.isSome_iff_exists.1 (isSome_lookup (mem_reverse.2 hw))
    rw [hv,h q v w (mem_reverse.1 (mem_of_lookup hv)) hw]

end InfraAudit.Fields

namespace InfraAudit.Graph

open List Text Fields

inductive Step where
  | key (k : String)
  | index (i : Nat)
  deriving DecidableEq

def Step.text : Step → String
  | .key k => k
  | .index i => toString i

def children : Value → List (Step × Value)
  | .list xs => xs.zipIdx.map fun x => (.index x.2,x.1)
  | .dict fs => fs.map fun f => (.key f.1,f.2)
  | _ => []

def subtree? : List Step → Value → Option Value
  | [],v => some v
  | s::p,v => ((children v).lookup s).bind (subtree? p)

def pathName (key : String) (p : List Step) : String := p.foldl (fun s t => dotted s t.text) key

/-- Mappings and lists, whose keys can be told apart in a dotted path, over any other values. -/
inductive Plain : Value → Prop where
  | intro {v : Value} (known : ∀ es, v ≠ .table es) (keys : ∀ fs, v = .dict fs → (keys fs).Nodup ∧
      ∀ k ∈ keys fs, k ≠ "" ∧ Undotted k) (parts : ∀ c ∈ children v, Plain c.2) : Plain v

/-- The texts of steps tell its parts apart. -/
lemma Plain.children (hv : Plain v) : ((children v).map (·.1.text)).Nodup ∧
    ∀ c ∈ children v, Undotted c.1.text ∧ Plain c.2 := by
  obtain ⟨-,hk,hp⟩ := hv
  have ht : ((Graph.children v).map (·.1.text)).Nodup ∧ ∀ c ∈ Graph.children v, Undotted c.1.text := by
    cases v with
    | list xs =>
      have hm := (nodup_range' (s := 0) (n := xs.length)).map fun _ _ => Decimal.toString_eq_iff.1
      rw [← zipIdx_map_snd,map_map] at hm
      rw [Graph.children,map_map,forall_mem_map]
      exact ⟨hm,fun x _ => Decimal.not_mem_toString (by decide) x.2⟩
    | dict fs =>
      rw [Graph.children,map_map,forall_mem_map]
      exact ⟨(hk fs rfl).1,fun f hf => ((hk fs rfl).2 f.1 (mem_map_of_mem hf)).2⟩
    | _ => simp [Graph.children]
  exact ⟨ht.1,fun c hc => ⟨ht.2 c hc,hp c hc⟩⟩

lemma Plain.lookup_of_mem (hv : Plain v) (h : (s,w) ∈ Graph.children v) : (Graph.children v).lookup s = some w := by
  refine InfraAudit.lookup_of_mem (.of_map Step.text ?_) h
  rw [map_map]
  exact hv.children.1

lemma Plain.undotted (hv : Plain v) (h : subtree? p v = some w) : ∀ s ∈ p, Undotted s.text := by
  induction p generalizing v with
  | nil => simp
  | cons s p ih =>
    obtain ⟨x,hx,h⟩ := Option.bind_eq_some_iff.1 h
    obtain ⟨hu,hc⟩ := hv.children.2 _ (mem_of_lookup hx)
    exact forall_mem_cons.2 ⟨hu,ih hc h⟩

lemma split_pathName (hp : ∀ s ∈ p, Undotted s.text) (key : String) :
    split (pathName key p) "." = split key "." ++ p.map Step.text := by
  induction p generalizing key with
  | nil => simp [pathName]
  | cons s p ih =>
    obtain ⟨hs,hp⟩ := forall_mem_cons.1 hp
    rw [show pathName key (s::p) = pathName (dotted key s.text) p from rfl,ih hp,dotted,split_dotted,
      split_of_undotted hs]
    simp

lemma Plain.texts_inj (hv : Plain v) (hp : subtree? p v = some w) (hq : subtree? q v = some u)
    (h : p.map Step.text = q.map Step.text) : p = q := by
  induction p generalizing v q with
  | nil => exact (map_eq_nil_iff.1 h.symm).symm
  | cons s p ih =>
    obtain ⟨t,q,rfl,ht,hr⟩ := map_eq_cons_iff.1 h.symm
    obtain ⟨x,hx,hp⟩ := Option.bind_eq_some_iff.1 hp
    obtain ⟨y,hy,hq⟩ := Option.bind_eq_some_iff.1 hq
    have hxm := mem_of_lookup hx
    cases inj_on_of_nodup_map hv.children.1 hxm (mem_of_lookup hy) ht.symm
    rw [ih (hv.children.2 _ hxm).2 hp hq hr.symm]

lemma Plain.pathName_inj (hv : Plain v) (hp : subtree? p v = some w) (hq : subtree? q v = some u)
    (h : pathName key p = pathName key q) : p = q := by
  have hs := split_pathName (hv.undotted hp) key
  rw [h,split_pathName (hv.undotted hq)] at hs
  exact hv.texts_inj hp hq (append_cancel_left hs).symm

def partsOf (key : String) (c : Step × Value) : Fields := (flattenPart false (dotted key c.1.text) c.2).2

lemma flattenItems_eq {xs : List Value}
    (h : ∀ x ∈ xs.zipIdx i, ∀ key, (flattenPart false key x.1).1 = x.1) :
    flattenItems false key i xs = (xs,((xs.zipIdx i).map fun x => (.index x.2,x.1)).flatMap (partsOf key)) := by
  induction xs generalizing i with
  | nil => rfl
  | cons x xs ih =>
    obtain ⟨hx,hxs⟩ := forall_mem_cons.1 (zipIdx_cons ▸ h)
    simp only [flattenItems,ih hxs,hx]
    rfl

lemma flattenFields_eq (h : ∀ f ∈ fs, f.1 ≠ "" ∧ ∀ key, (flattenPart false key f.2).1 = f.2) :
    flattenFields false key fs = (fs,(Graph.children (.dict fs)).flatMap (partsOf key)) := by
  induction fs with
  | nil => rfl
  | cons f fs ih =>
    obtain ⟨⟨hk,hf⟩,hfs⟩ := forall_mem_cons.1 h
    have he : f.1.isEmpty = false := by simpa using hk
    simp only [flattenFields,ih hfs,hf,he]
    rfl

/-- What flattening gives: the value as it was, and what its parts give. -/
lemma Plain.flatten_eq (hv : Plain v) (key : String) : flatten false key v = (v,(Graph.children v).flatMap (partsOf key)) ∧
    flattenPart false key v = (v,(key,v) :: (Graph.children v).flatMap (partsOf key)) := by
  induction hv generalizing key with
  | @intro v ht hk _ ih =>
    have hp : ∀ c ∈ Graph.children v, ∀ key, (flattenPart false key c.2).1 = c.2 := fun c hc key => by rw [(ih c hc key).2]
    cases v with
    | list xs =>
      have hi : flattenItems false key 0 xs = _ := flattenItems_eq (forall_mem_map.1 hp)
      refine ⟨by rw [flatten,hi]; rfl,?_⟩
      rcases xs with _ | ⟨x,_ | ⟨y,xs⟩⟩
      · rfl
      · have hx := ih (.index 0,x) mem_cons_self (dotted key "0")
        have h0 : partsOf key (.index 0,x) = (flattenPart false (dotted key "0") x).2 := rfl
        simp [flattenPart,Graph.children,h0,hx]
      · rw [flattenPart,hi]
        · rfl
        · simp
    | dict fs =>
      have hf : flattenFields false key fs = _ := flattenFields_eq fun f hf =>
        ⟨((hk fs rfl).2 f.1 (mem_map_of_mem hf)).1,hp _ (mem_map_of_mem hf)⟩
      exact ⟨by rw [flatten,hf],by rw [flattenPart,hf]⟩
    | table es => exact absurd rfl (ht es)
    | _ => exact ⟨rfl,rfl⟩

lemma Plain.mem_iff (hv : Plain v) (key n : String) : (n,w) ∈ (flattenPart false key v).2 ↔
    ∃ p, subtree? p v = some w ∧ pathName key p = n := by
  induction hv generalizing key with
  | @intro v ht hk hp ih =>
    have hv : Plain v := ⟨ht,hk,hp⟩
    rw [(hv.flatten_eq key).2,mem_cons,mem_flatMap]
    constructor
    · rintro (heq | ⟨⟨s,x⟩,hc,hm⟩)
      · cases heq
        exact ⟨[],rfl,rfl⟩
      · obtain ⟨p,hw,hn⟩ := (ih _ hc _).1 hm
        exact ⟨s::p,by rw [subtree?,hv.lookup_of_mem hc]; exact hw,hn⟩
    · rintro ⟨_ | ⟨s,p⟩,hw,hn⟩
      · cases hw
        exact .inl (by rw [← hn]; rfl)
      · obtain ⟨x,hx,hw⟩ := Option.bind_eq_some_iff.1 hw
        exact .inr ⟨(s,x),mem_of_lookup hx,(ih _ (mem_of_lookup hx) _).2 ⟨p,hw,hn⟩⟩

lemma Plain.innerAttributes_eq (hv : Plain v) (key : String) :
    innerAttributes false false key v = ofPairs (flattenPart false key v).2 := by
  rw [innerAttributes,unwrapIf,(hv.flatten_eq key).2,if_neg (by decide),(hv.flatten_eq key).1]

theorem innerAttributes_exact (hv : Plain v) (key : String) : (keys (innerAttributes false false key v)).Nodup ∧
      (∀ p q, (subtree? p v).isSome → (subtree? q v).isSome → pathName key p = pathName key q → p = q) ∧
      ∀ n w, (innerAttributes false false key v).lookup n = some w ↔ ∃ p, subtree? p v = some w ∧ pathName key p = n := by
  rw [hv.innerAttributes_eq]
  refine ⟨@nodup_update [] nodup_nil _,fun p q hp hq => ?_,fun n w => (lookup_ofPairs ?_ n w).trans (hv.mem_iff key n)⟩
  · obtain ⟨a,ha⟩ := Option.isSome_iff_exists.1 hp
    obtain ⟨b,hb⟩ := Option.isSome_iff_exists.1 hq
    exact hv.pathName_inj ha hb
  · intro n a b ha hb
    obtain ⟨p,hp,hn⟩ := (hv.mem_iff key n).1 ha
    obtain ⟨q,hq,rfl⟩ := (hv.mem_iff key _).1 hb
    obtain rfl := hv.pathName_inj hp hq hn
    exact Option.some_injective _ (hp.symm.trans hq)

/-- Two paths end in the same text, one by a key and one by a position. -/
def twoRules : Value := .dict [("rules",.list [.list [.int 80],.dict [("0","a.b")]])]

lemma plain_twoRules : Plain twoRules := by
  have hi : Plain (.int 80) := ⟨by simp,by simp,by simp [children]⟩
  have hs : Plain "a.b" := ⟨by simp,by simp,by simp [children]⟩
  have hl : Plain (.list [.int 80]) := ⟨by simp,by simp,by simp [children,hi]⟩
  have hd : Plain (.dict [("0","a.b")]) := ⟨by simp,by simp [Fields.keys,Undotted],by simp [children,hs]⟩
  have hr : Plain (.list [.list [.int 80],.dict [("0","a.b")]]) := ⟨by simp,by simp,by simp [children,hl,hd]⟩
  exact ⟨by simp [twoRules],by simp [twoRules,Fields.keys,Undotted],by simp [twoRules,children,hr]⟩

theorem innerAttributes_exact_twoRules : Plain twoRules ∧
    (innerAttributes false false "a.b" twoRules).lookup "a.b.rules.1.0" = some (.str "a.b") :=
  ⟨plain_twoRules,((innerAttributes_exact plain_twoRules "a.b").2.2 _ _).2 ⟨[.key "rules",.index 1,.key "0"],rfl,rfl⟩⟩

end InfraAudit.Graph
