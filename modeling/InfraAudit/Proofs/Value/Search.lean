import InfraAudit.Proofs.Success
import InfraAudit.Value.PathGlob

/-!
The search for a key in mappings and lists of any depth. What it finds are the places where the key stands, each once and in the order
of a walk from the top that comes to a place before those below it.
-/

namespace InfraAudit.Value

open List

/-- What stands in a mapping or a list, with the key or the position that leads there. -/
def parts : Value → Entries
  | .list xs => xs.zipIdx.map fun x => (.int x.2,x.1)
  | v => v.entries

/-- In each mapping inside, the keys can be looked up and told apart. -/
inductive Keyed : Value → Prop
  | intro {v : Value} (apart : v.entries.Pairwise fun e f => (e.1 == f.1) = false)
      (known : ∀ e ∈ v.entries, e.1.hashable ∧ e.1 == e.1) (parts : ∀ e ∈ v.parts, Keyed e.2) : Keyed v

def isClosed (closed : List String) (e : Value × Value) : Bool := e.2.isDict && closed.any (e.1 == .str ·)

/-- A trail that enters no mapping under a closed key. -/
inductive Leads (closed : List String) : Value → Trail → Value → Prop
  | here (v : Value) : Leads closed v [] v
  | into {v w : Value} {e : Value × Value} {t : Trail} (mem : e ∈ v.parts) (opened : isClosed closed e = false)
      (rest : Leads closed e.2 t w) : Leads closed v (e.1::t) w

/-- The key stands at the end of the path, in a mapping that the rest of it leads to. -/
def Occurs (closed : List String) (key : String) (v : Value) (d : Deep) : Prop :=
  ∃ t m k, Leads closed v t m ∧ (k,d.value) ∈ m.entries ∧ (k == .str key) ∧ d.path = t ++ [k]

/-- The order of a walk from the top: a place before those below it, and parts in their order. -/
inductive Precedes : Value → Trail → Trail → Prop
  | above (v k : Value) (t : Trail) : Precedes v [] (k::t)
  | within {v : Value} {e : Value × Value} {s t : Trail} (mem : e ∈ v.parts) (rest : Precedes e.2 s t) :
      Precedes v (e.1::s) (e.1::t)
  | beside {v : Value} {e f : Value × Value} (mem : [e,f] <+ v.parts) (s t : Trail) : Precedes v (e.1::s) (f.1::t)

variable {v w : Value} {t : Trail} {closed : List String} {key : String} {d : Deep} {e : Value × Value}

def Deep.under (path : Trail) (d : Deep) : Deep := ⟨path ++ d.path,d.value⟩

def foundAt (closed : List String) (key : String) (path : Trail) (e : Value × Value) : List Deep :=
  (if e.1 == .str key then [⟨path ++ [e.1],e.2⟩] else []) ++
    if isClosed closed e then [] else e.2.deepKeys closed key (path ++ [e.1])

lemma int_beq_str (n : Int) (s : String) : ((.int n : Value) == .str s) = false := by
  show Value.eq _ _ = false
  simp [Value.eq,eqScalar,int?]

lemma deepKeysOfEntries_eq (path : Trail) (es : Entries) :
    deepKeysOfEntries closed key path es = es.flatMap (foundAt closed key path) := by
  induction es with
  | nil => rfl
  | cons e es ih =>
    rw [deepKeysOfEntries,ih]
    rfl

lemma deepKeysOfFields_eq (path : Trail) (fs : Fields) : deepKeysOfFields closed key path fs =
    deepKeysOfEntries closed key path (fs.map fun f => (.str f.1,f.2)) := by
  induction fs with
  | nil => rfl
  | cons f fs ih => simp [deepKeysOfFields,deepKeysOfEntries,ih,beq_str]

lemma deepKeysOfItems_eq (path : Trail) (n : Nat) (xs : List Value) : deepKeysOfItems closed key path n xs =
    deepKeysOfEntries closed key path ((xs.zipIdx n).map fun x => (.int x.2,x.1)) := by
  induction xs generalizing n with
  | nil => rfl
  | cons x xs ih => simp [deepKeysOfItems,deepKeysOfEntries,ih,int_beq_str]

lemma deepKeys_eq (path : Trail) (v : Value) : v.deepKeys closed key path = v.parts.flatMap (foundAt closed key path) := by
  cases v with
  | dict fs => rw [deepKeys,deepKeysOfFields_eq,deepKeysOfEntries_eq]; rfl
  | table es => exact deepKeysOfEntries_eq path es
  | list xs => rw [deepKeys,deepKeysOfItems_eq,deepKeysOfEntries_eq]; rfl
  | _ => rfl

lemma deepKeys_under (hv : Keyed v) (path : Trail) :
    v.deepKeys closed key path = (v.deepKeys closed key []).map (.under path) := by
  induction hv generalizing path with
  | @intro v _ _ _ ih =>
    rw [deepKeys_eq,deepKeys_eq,map_flatMap]
    refine flatMap_congr fun e he => ?_
    rw [foundAt,foundAt,ih e he,ih e he ([] ++ [e.1])]
    split <;> split <;> simp [Deep.under]

lemma mem_foundAt (he : Keyed e.2) : d ∈ foundAt closed key [] e ↔ (e.1 == .str key) ∧ d = ⟨[e.1],e.2⟩ ∨
    isClosed closed e = false ∧ ∃ d' ∈ e.2.deepKeys closed key [], d'.under [e.1] = d := by
  rw [foundAt,deepKeys_under he]
  cases hk : e.1 == .str key <;> cases hc : isClosed closed e <;> simp

lemma mem_parts_iff {k : Value} (h : k == .str key) : (k,w) ∈ v.parts ↔ (k,w) ∈ v.entries := by
  cases v with
  | list xs =>
    simp [parts,entries]
    rintro n - rfl
    simp [int_beq_str] at h
  | _ => rfl

lemma mem_deepKeys (hv : Keyed v) : d ∈ v.deepKeys closed key [] ↔ Occurs closed key v d := by
  induction hv generalizing d with
  | @intro v _ _ hp ih =>
    rw [deepKeys_eq,mem_flatMap]
    constructor
    · rintro ⟨e,he,hd⟩
      rcases (mem_foundAt (hp e he)).1 hd with ⟨hk,rfl⟩ | ⟨ho,d',hd',rfl⟩
      · exact ⟨[],v,e.1,.here v,(mem_parts_iff hk).1 he,hk,rfl⟩
      · obtain ⟨t,m,k,hl,hm,hk,hpath⟩ := (ih e he).1 hd'
        exact ⟨e.1::t,m,k,.into he ho hl,hm,hk,by simp [Deep.under,hpath]⟩
    · rintro ⟨t,m,k,hl,hm,hk,hpath⟩
      obtain ⟨path,value⟩ := d
      obtain rfl : path = t ++ [k] := hpath
      cases hl with
      | here => exact ⟨(k,value),(mem_parts_iff hk).2 hm,(mem_foundAt (hp _ ((mem_parts_iff hk).2 hm))).2 (.inl ⟨hk,rfl⟩)⟩
      | @into _ _ e t he ho hl =>
        exact ⟨e,he,(mem_foundAt (hp e he)).2 (.inr ⟨ho,⟨t ++ [k],value⟩,(ih e he).2 ⟨t,m,k,hl,hm,hk,rfl⟩,rfl⟩)⟩

lemma path_ne_nil (hv : Keyed v) (h : d ∈ v.deepKeys closed key []) : ∃ k t, d.path = k::t := by
  obtain ⟨t,_,k,_,_,_,hp⟩ := (mem_deepKeys hv).1 h
  cases t with
  | nil => exact ⟨k,[],hp⟩
  | cons l t => exact ⟨l,t ++ [k],hp⟩

lemma head_of_mem_foundAt (he : Keyed e.2) (h : d ∈ foundAt closed key [] e) : ∃ t, d.path = e.1::t := by
  rcases (mem_foundAt he).1 h with ⟨-,rfl⟩ | ⟨-,d',-,rfl⟩
  · exact ⟨[],rfl⟩
  · exact ⟨d'.path,rfl⟩

lemma pairwise_deepKeys (hv : Keyed v) : (v.deepKeys closed key []).Pairwise fun d d' => Precedes v d.path d'.path := by
  induction hv with
  | @intro v _ _ hp ih =>
    rw [deepKeys_eq,pairwise_flatMap]
    refine ⟨fun e he => ?_,pairwise_iff_forall_sublist.2 fun {e f} hs d hd d' hd' => ?_⟩
    · rw [foundAt,deepKeys_under (hp e he),pairwise_append]
      refine ⟨?_,?_,?_⟩
      · split <;> simp
      · split
        · exact .nil
        · exact pairwise_map.2 ((ih e he).imp fun h => .within he h)
      · intro d hd d' hd'
        obtain ⟨-,rfl⟩ : (e.1 == .str key) = true ∧ d = ⟨[e.1],e.2⟩ := by simpa using hd
        obtain ⟨-,d₁,hd₁,rfl⟩ : isClosed closed e = false ∧ ∃ d₁ ∈ e.2.deepKeys closed key [], d₁.under [e.1] = d' := by
          simpa using hd'
        obtain ⟨k,t,ht⟩ := path_ne_nil (hp e he) hd₁
        exact .within he (ht ▸ .above e.2 k t)
    · obtain ⟨s,hs'⟩ := head_of_mem_foundAt (hp e (hs.subset (by simp))) hd
      obtain ⟨t,ht⟩ := head_of_mem_foundAt (hp f (hs.subset (by simp))) hd'
      rw [hs',ht]
      exact .beside hs s t

lemma Keyed.nodup_parts (hv : Keyed v) : (v.parts.map Prod.fst).Nodup := by
  obtain ⟨ha,hk,-⟩ := hv
  cases v with
  | list xs =>
    have hi : Function.Injective fun n : Nat => (.int n : Value) := fun m n h => by simpa using h
    have hn := (nodup_range' (s := 0) (n := xs.length)).map hi
    rw [← zipIdx_map_snd,map_map] at hn
    rw [parts,map_map]
    exact hn
  | _ =>
    refine pairwise_map.2 (ha.imp_of_mem fun he _ hef heq => ?_)
    rw [← heq,(hk _ he).2] at hef
    cases hef

lemma findEntry_of_mem {es : Entries} (ha : es.Pairwise fun e f => (e.1 == f.1) = false)
    (hk : ∀ e ∈ es, e.1.hashable ∧ e.1 == e.1) (he : e ∈ es) : findEntry (fun k => eq k e.1) es = some e.2 := by
  induction es with
  | nil => cases he
  | cons f es ih =>
    obtain ⟨hf,ha⟩ := pairwise_cons.1 ha
    obtain ⟨hk,hks⟩ := forall_mem_cons.1 hk
    rcases mem_cons.1 he with rfl | he
    · exact if_pos hk.2
    · rw [findEntry,ih ha hks he]
      exact if_neg (Bool.eq_false_iff.1 (hf e he))

lemma Keyed.item_eq (hv : Keyed v) (he : e ∈ v.parts) : v.item e.1 = .ok e.2 := by
  obtain ⟨ha,hk,-⟩ := hv
  cases v with
  | dict fs =>
    obtain ⟨⟨k,w⟩,hf,rfl⟩ := mem_map.1 he
    have hn : (fs.map Prod.fst).Nodup := by simpa [entries,pairwise_map,beq_str,Nodup] using ha
    rw [item,lookup_of_mem hn hf]
    rfl
  | table es =>
    have hf : findEntry (fun k => eq k e.1) es = some e.2 := findEntry_of_mem ha hk he
    rw [item,(hk e he).1,hf]
    rfl
  | list xs =>
    obtain ⟨⟨x,i⟩,hx,rfl⟩ := mem_map.1 he
    have hx : xs[i]? = some x := mem_zipIdx_iff_getElem?.1 hx
    have hi : ¬(i : Int) < 0 := by omega
    show nth xs i = _
    simp [nth,hi,hx]
  | _ => cases he

lemma Leads.valueAt_eq (hl : Leads closed v t w) (hv : Keyed v) : v.valueAt t = .ok w ∧ Keyed w := by
  induction hl with
  | here v => exact ⟨rfl,hv⟩
  | into he _ _ ih =>
    rw [valueAt,hv.item_eq he]
    obtain ⟨-,-,hp⟩ := hv
    exact ih (hp _ he)

lemma valueAt_append (s t : Trail) (v : Value) : v.valueAt (s ++ t) = v.valueAt s >>= (valueAt · t) := by
  induction s generalizing v with
  | nil => rfl
  | cons k s ih =>
    rw [cons_append,valueAt,valueAt]
    cases v.item k with
    | error f => rfl
    | ok w => exact ih w

lemma Occurs.valueAt_eq (h : Occurs closed key v d) (hv : Keyed v) : v.valueAt d.path = .ok d.value := by
  obtain ⟨t,m,k,hl,hm,hk,hp⟩ := h
  obtain ⟨ht,hw⟩ := hl.valueAt_eq hv
  rw [hp,valueAt_append,ht,ok_bind,valueAt,hw.item_eq ((mem_parts_iff hk).2 hm)]
  rfl

lemma Precedes.ne (h : Precedes v s t) (hv : Keyed v) : s ≠ t := by
  induction h with
  | above => simp
  | within he _ ih =>
    obtain ⟨-,-,hp⟩ := hv
    simpa using ih (hp _ he)
  | beside hs s t =>
    have := hv.nodup_parts.sublist (hs.map _)
    simp_all

theorem deepKeys_exact (closed : List String) (key : String) (hv : Keyed v) :
    (∀ d, d ∈ v.deepKeys closed key [] ↔ Occurs closed key v d) ∧
    ((v.deepKeys closed key []).map (·.path)).Nodup ∧
    (v.deepKeys closed key []).Pairwise (fun d d' => Precedes v d.path d'.path) ∧
    ∀ d ∈ v.deepKeys closed key [], v.valueAt d.path = .ok d.value := by
  have hp : (v.deepKeys closed key []).Pairwise fun d d' => Precedes v d.path d'.path := pairwise_deepKeys hv
  exact ⟨fun d => mem_deepKeys hv,pairwise_map.2 (hp.imp fun h => h.ne hv),hp,fun d hd => ((mem_deepKeys hv).1 hd).valueAt_eq hv⟩

/-- A key under itself, in lists of lists and in a closed mapping. -/
def nestedKeys : Value :=
  .dict [("parent_metadata",.dict [("k",.int 0)]),("k",.list [.list [.dict [("k",.int 1)]],.dict [("k",.dict [("k",.int 2)])]])]

lemma keyed_int (n : Int) : Keyed (.int n) := .intro .nil (by simp [entries]) (by simp [parts,entries])

lemma keyed_list {xs : List Value} (h : ∀ x ∈ xs, Keyed x) : Keyed (.list xs) := by
  refine .intro .nil (by simp [entries]) fun e he => ?_
  obtain ⟨x,hx,rfl⟩ := mem_map.1 he
  exact h _ (fst_mem_of_mem_zipIdx hx)

lemma keyed_dict {fs : Fields} (hn : (fs.map Prod.fst).Nodup) (h : ∀ f ∈ fs, Keyed f.2) : Keyed (.dict fs) := by
  refine .intro ?_ ?_ ?_
  · simpa [entries,pairwise_map,beq_str,Nodup] using hn
  · intro e he
    obtain ⟨f,-,rfl⟩ := mem_map.1 he
    exact ⟨rfl,by simp [beq_str]⟩
  · intro e he
    obtain ⟨f,hf,rfl⟩ := mem_map.1 he
    exact h f hf

lemma keyed_nestedKeys : Keyed nestedKeys := by
  have hd (n : Int) : Keyed (.dict [("k",.int n)]) := keyed_dict (by simp) (by simp [keyed_int])
  refine keyed_dict (by simp) ?_
  simp [hd,keyed_list,keyed_dict]

theorem deepKeys_exact_nested : (nestedKeys.deepKeys ["parent_metadata"] "k" []).map (·.path) =
      ([["k"],["k",.int 0,.int 0,"k"],["k",.int 1,"k"],["k",.int 1,"k","k"]] : List Trail) ∧
    ((nestedKeys.deepKeys ["parent_metadata"] "k" []).map (·.path)).Nodup :=
  ⟨rfl,(deepKeys_exact ["parent_metadata"] "k" keyed_nestedKeys).2.1⟩

end InfraAudit.Value
