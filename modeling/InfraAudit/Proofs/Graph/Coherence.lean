import InfraAudit.Graph.Basic
import InfraAudit.Proofs.Success
import InfraAudit.Proofs.Text.Dotted

/-!
The two views of an attribute: nested, and under the dotted names of its parts. Setting a part leaves them coherent
just if the mappings above the part, below the attribute itself, hold nothing else.
-/

namespace InfraAudit

open List Fields Option Text

open Text (Undotted split join startsWith)

variable {fs : Fields} {key p : String} {v : Value}

lemma Fields.length_insert_of_mem (h : (fs.lookup key).isSome) (v : Value) :
    (insert key v fs).length = fs.length := by
  induction fs with
  | nil => cases h
  | cons f fs ih => grind [insert,lookup_cons]

lemma Fields.insert_insert (key : String) (v : Value) (fs : Fields) :
    insert key v (insert key v fs) = insert key v fs := by
  induction fs with
  | nil => simp [insert]
  | cons f fs ih => grind [insert]

lemma Fields.eq_singleton (hl : fs.length = 1) (h : fs.lookup key = some v) : fs = [(key,v)] := by
  obtain ⟨f,rfl⟩ := length_eq_one_iff.1 hl
  rw [mem_singleton.1 (mem_of_lookup h)]

namespace Graph

def follow : List String → Value → Option Value
  | [],v => some v
  | p::ps,.dict fs => (fs.lookup p).bind (follow ps)
  | _::_,_ => none

/-- Nested mappings without dots in their keys. -/
inductive Nested : Value → Prop
  | leaf {v : Value} : Block.isContainer v = false → Nested v
  | mapping {fs : Fields} : (∀ f ∈ fs, Undotted f.1) → (∀ f ∈ fs, Nested f.2) → Nested (.dict fs)

/-- Under each dotted name stands the value that its parts lead to. -/
def Coherent (fs : Fields) : Prop := ∀ key v, fs.lookup key = some v → follow (split key ".") (.dict fs) = some v

/-- A value at the end of mappings that hold nothing else. -/
def chain : List String → Value → Value
  | [],v => v
  | p::ps,v => .dict [(p,chain ps v)]

lemma exists_of_follow (h : follow (p::ps) v = some w) :
    ∃ fs x, v = .dict fs ∧ fs.lookup p = some x ∧ follow ps x = some w := by
  cases v with
  | dict fs =>
    obtain ⟨x,hx,hw⟩ := bind_eq_some_iff.1 h
    exact ⟨fs,x,rfl,hx,hw⟩
  | _ => cases h

lemma Nested.of_lookup (h : Nested (.dict fs)) :
    (∀ f ∈ fs, Undotted f.1) ∧ ∀ {p : String} {x : Value}, fs.lookup p = some x → Nested x := by
  cases h with
  | leaf h => cases h
  | mapping hk hv => exact ⟨hk,fun hx => hv _ (mem_of_lookup hx)⟩

lemma follow_append (ps qs : List String) (v : Value) : follow (ps ++ qs) v = (follow ps v).bind (follow qs) := by
  induction ps generalizing v with
  | nil => rfl
  | cons p ps ih =>
    cases v with
    | dict fs =>
      rw [cons_append,follow,follow,bind_assoc]
      exact congrArg _ (funext ih)
    | _ => rfl

lemma Nested.of_follow (hv : Nested v) (h : follow ps v = some w) : Nested w := by
  induction ps generalizing v with
  | nil => exact some.inj h ▸ hv
  | cons p ps ih =>
    obtain ⟨fs,x,rfl,hx,hw⟩ := exists_of_follow h
    exact ih (hv.of_lookup.2 hx) hw

lemma entryKey?_of_has (h : has fs p) (ps : List String) (n : Nat) : entryKey? fs (p::ps) (n+1) = some (p,1) := by
  induction n with
  | zero =>
    have hj : join "." [p] = p := rfl
    simp [entryKey?,hj,h]
  | succ n ih => rw [entryKey?,ih]

lemma lookup_setField (ps : List String) (new : Value) (key : String) (fs : Fields) (q : String) :
    (setField ps new key fs).lookup q = if q = key then (fs.lookup key).map (setInner ps new) else fs.lookup q := by
  induction fs with
  | nil => simp [setField]
  | cons f fs ih => grind [setField,Fields.lookup_cons]

lemma length_setField (ps : List String) (new : Value) (key : String) (fs : Fields) :
    (setField ps new key fs).length = fs.length := by
  induction fs with
  | nil => simp [setField]
  | cons f fs ih =>
    rw [setField]
    split <;> simp [ih]

lemma setInner_nested (hfs : Nested (.dict fs)) (hx : fs.lookup p = some x) (hps : ∀ q ∈ p :: ps, Undotted q) (new : Value) :
    ∃ gs, setInner (p::ps) new (.dict fs) = .dict gs ∧ gs.length = fs.length ∧
      ∀ q, gs.lookup q = if q = p then some (if ps = [] then new else setInner ps new x) else fs.lookup q := by
  have hh : has fs p := by simp [has,get?,hx]
  have he := entryKey?_of_has hh ps ps.length
  cases ps with
  | nil =>
    refine ⟨insert p new fs,?_,length_insert_of_mem (by simp [hx]) new,lookup_insert p new fs⟩
    have ht : insert p new (insert p new fs) = insert p new fs := insert_insert p new fs
    have hj : join "." [p] = p := rfl
    simp [setInner,hj,hh,ht]
  | cons r ps =>
    have hkey : has fs (join "." (p :: r :: ps)) = false := by
      rw [has,get?,isSome_eq_false_iff,isNone_iff_eq_none,lookup_eq_none_iff]
      intro f hf
      rw [bne_iff_ne]
      intro hj
      have ho := undotted_iff.1 (hfs.of_lookup.1 f hf)
      rw [← hj,split_join (by simp) hps] at ho
      simp at ho
    refine ⟨setField (r::ps) new p fs,?_,length_setField _ _ _ _,fun q => ?_⟩
    · simp [setInner,hkey,show entryKey? fs (p :: r :: ps) (ps.length+1+1) = some (p,1) from he]
    · simp [lookup_setField,hx]

lemma not_append_within (xs : List α) (h : ys ≠ []) : ¬ xs ++ ys <+: xs := by
  intro hb
  have hl := hb.length_le
  have := length_pos_iff.2 h
  rw [length_append] at hl
  omega

lemma follow_setInner (hne : ps ≠ []) (hps : ∀ p ∈ ps, Undotted p) (hv : Nested v) (h : follow ps v = some old) (new : Value)
    (qs : List String) : follow qs (setInner ps new v) = if ps <+: qs then follow (qs.drop ps.length) new
      else if qs <+: ps then (follow qs v).map (setInner (ps.drop qs.length) new) else follow qs v := by
  induction ps generalizing v qs with
  | nil => exact absurd rfl hne
  | cons p ps ih =>
    obtain ⟨fs,x,rfl,hx,hold⟩ := exists_of_follow h
    obtain ⟨gs,hgs,-,hl⟩ := setInner_nested hv hx hps new
    cases qs with
    | nil => simp [follow]
    | cons q qs =>
      rw [hgs]
      simp only [follow,hl,cons_prefix_cons]
      by_cases hq : q = p
      · subst hq
        by_cases hn : ps = []
        · simp [hn]
        · simpa [hn,hx] using ih hn (fun r hr => hps r (by simp [hr])) (hv.of_lookup.2 hx) hold qs
      · simp [hq,Ne.symm hq]

lemma setInner_eq_chain_iff (hne : ps ≠ []) (hps : ∀ p ∈ ps, Undotted p) (hv : Nested v) (h : follow ps v = some old)
    (new : Value) : setInner ps new v = chain ps new ↔ ∀ qs, qs <+: ps → qs ≠ ps → ∃ f, follow qs v = some (.dict [f]) := by
  induction ps generalizing v with
  | nil => exact absurd rfl hne
  | cons p ps ih =>
    obtain ⟨fs,x,rfl,hx,hold⟩ := exists_of_follow h
    obtain ⟨gs,hgs,hl,hlk⟩ := setInner_nested hv hx hps new
    have hi : (if ps = [] then new else setInner ps new x) = chain ps new ↔
        ∀ qs, qs <+: ps → qs ≠ ps → ∃ f, follow qs x = some (.dict [f]) := by
      by_cases hn : ps = []
      · simp [hn,chain]
      · simpa [hn] using ih hn (fun r hr => hps r (by simp [hr])) (hv.of_lookup.2 hx) hold
    have hp := hlk p
    rw [if_pos rfl] at hp
    rw [hgs]
    constructor
    · intro heq
      obtain rfl : gs = [(p,chain ps new)] := by simpa [chain] using heq
      obtain rfl : fs = [(p,x)] := eq_singleton (by simpa using hl.symm) hx
      have hrest := hi.1 (some.inj (hp.symm.trans (by simp)))
      intro qs hqs hpr
      cases qs with
      | nil => exact ⟨_,rfl⟩
      | cons q qs =>
        obtain ⟨rfl,hb⟩ := cons_prefix_cons.1 hqs
        simpa [follow] using hrest qs hb (by simpa using hpr)
    · intro hln
      obtain ⟨f,hf⟩ := hln [] (by simp) (by simp)
      have ho : gs.length = 1 := by
        rw [hl]
        cases hf
        rfl
      rw [eq_singleton ho hp,hi.2 fun qs hqs hpr => ?_]
      · rfl
      · simpa [follow,hx] using hln (p::qs) (by simpa using hqs) (by simpa using hpr)

lemma follow_eq_chain_iff (hps : ∀ p ∈ ps, Undotted p) (hv : Nested v) (h : follow ps v = some old) (new : Value) :
    (∀ qs, qs ≠ [] → qs <+: ps → qs ≠ ps → follow qs (setInner ps new v) = some (chain (ps.drop qs.length) new)) ↔
      ∀ qs, qs ≠ [] → qs <+: ps → qs ≠ ps → ∃ f, follow qs v = some (.dict [f]) := by
  have hpl : ∀ qs r, qs ++ r = ps → r ≠ [] → ∃ y, follow qs v = some y ∧
      (follow qs (setInner ps new v) = some (chain r new) ↔
        ∀ s, s <+: r → s ≠ r → ∃ f, follow (qs ++ s) v = some (.dict [f])) := by
    rintro qs r rfl hr
    obtain ⟨y,hy,hrest⟩ := bind_eq_some_iff.1 (follow_append qs r v ▸ h)
    refine ⟨y,hy,?_⟩
    rw [follow_setInner (by simp [hr]) hps hv h,if_neg (not_append_within qs hr),if_pos (by simp),hy,drop_left,
      map_some,some_inj,setInner_eq_chain_iff hr (fun p hp => hps p (by simp [hp])) (hv.of_follow hy) hrest]
    simp [follow_append,hy]
  constructor
  · rintro hc qs hqs ⟨r,rfl⟩ hpr
    have hr : r ≠ [] := by simpa using hpr
    obtain ⟨y,hy,hi⟩ := hpl qs r rfl hr
    have hst := hc qs hqs (by simp) hpr
    rw [drop_left] at hst
    simpa using hi.1 hst [] (by simp) (Ne.symm hr)
  · rintro hl qs hqs ⟨r,rfl⟩ hpr
    have hr : r ≠ [] := by simpa using hpr
    obtain ⟨y,hy,hi⟩ := hpl qs r rfl hr
    rw [drop_left,hi]
    exact fun s hs hne => hl (qs ++ s) (by simp [hqs]) (by simpa using hs) (by simpa using hne)

namespace Block

variable {b : Block}

lemma attributes_foldl (key : String) (ss : List (String × Value × Bool)) (b : Block) :
    (ss.foldl (fun (b : Block) (k,v,_) => if k == key then b.setShown k v else b.setAttribute k v) b).attributes =
      ss.foldl (fun fs s => insert s.1 s.2.1 fs) b.attributes := by
  induction ss generalizing b with
  | nil => rfl
  | cons s ss ih =>
    rw [foldl_cons,foldl_cons,ih]
    congr 1
    show (if s.1 == key then b.setShown s.1 s.2.1 else b.setAttribute s.1 s.2.1).attributes = _
    split
    · unfold setShown
      split <;> rfl
    · rfl

lemma lookup_stems (hpr : ∀ p ∈ parts, Undotted p) (new : Value) (hm : m ≤ parts.length)
    (fs : Fields) (q : String) :
    ((stems false parts m (chain (parts.drop m) new)).foldl (fun fs s => insert s.1 s.2.1 fs) fs).lookup q =
      if 2 ≤ (split q ".").length ∧ (split q ".").length ≤ m ∧ split q "." <+: parts
        then some (chain (parts.drop (split q ".").length) new) else fs.lookup q := by
  induction m generalizing fs with
  | zero => grind [stems]
  | succ n ih =>
    by_cases hn : n = 0
    · subst hn
      simp only [stems]
      grind
    · have hlt : n < parts.length := hm
      have hs : stems false parts (n+1) (chain (parts.drop (n+1)) new) =
          (join "." (parts.take (n+1)),chain (parts.drop (n+1)) new,true) ::
            stems false parts n (chain (parts.drop n) new) := by
        rw [drop_eq_getElem_cons hlt]
        simp [stems,hn,chain,List.getElem?_eq_getElem hlt]
      have hne : parts.take (n+1) ≠ [] := by
        rw [Ne,take_eq_nil_iff]
        rintro (h | h)
        · omega
        · simp [h] at hlt
      have hsp : split (join "." (parts.take (n+1))) "." = parts.take (n+1) :=
        split_join hne fun p hp => hpr p (mem_of_mem_take hp)
      have hat : q = join "." (parts.take (n+1)) ↔ (split q ".").length = n+1 ∧ split q "." <+: parts := by
        rw [prefix_iff_eq_take]
        constructor
        · intro hq
          rw [hq,hsp,length_take]
          exact ⟨by omega,by simp⟩
        · rintro ⟨hl,ht⟩
          rw [← join_split q,ht,hl]
      rw [hs,foldl_cons,ih (by omega),lookup_insert]
      grind

/-- The parts of a dotted name, and what stands at the first one. -/
structure Way (b : Block) (key first : String) (rest : List String) (x : Value) : Prop where
  parts : split key "." = first :: rest
  below : rest ≠ []
  present : (b.attributes.lookup key).isSome
  start : b.attributes.lookup first = some x

namespace Way

variable (h : b.Way key first rest x)

include h

lemma undotted (hp : p ∈ first :: rest) : Undotted p := undotted_of_mem_split (s := key) (h.parts ▸ hp)

lemma rest_undotted : ∀ p ∈ rest, Undotted p := fun _ hp => h.undotted (mem_cons_of_mem _ hp)

lemma split_first : split first "." = [first] := split_of_undotted (h.undotted mem_cons_self)

lemma split_join (hqs : qs <+: rest) : split (join "." (first::qs)) "." = first :: qs :=
  Text.split_join (by simp) fun _ hp => h.undotted ((cons_prefix_cons.2 ⟨rfl,hqs⟩).subset hp)

lemma lookup_shown (new : Value) (views : List String)
    (hfs : fs.lookup first = some (Graph.setInner rest new x))
    (ho : ∀ q, ¬ split q "." <+: first :: rest → fs.lookup q = b.attributes.lookup q) :
    let gs := views.foldl (fun fs view =>
      if startsWith key (view ++ ".") && decide ((first::rest).length > 1) then
        match get? b.attributes view with
        | some v => insert view (Graph.setInner ((first::rest).drop (split view ".").length) new v) fs
        | none => fs
      else fs) fs
    gs.lookup first = some (Graph.setInner rest new x) ∧
      ∀ q, ¬ split q "." <+: first :: rest → gs.lookup q = b.attributes.lookup q := by
  induction views generalizing fs with
  | nil => exact ⟨hfs,ho⟩
  | cons view views ih =>
    rw [foldl_cons]
    split
    · next hb =>
      obtain ⟨ps,-,hps⟩ := startsWith_dot_iff.1 (Bool.and_eq_true_iff.1 hb).1
      cases hv : get? b.attributes view with
      | none => exact ih hfs ho
      | some v =>
        refine ih ?_ fun q hq => ?_
        · rw [lookup_insert]
          split
          · next heq =>
            subst heq
            obtain rfl : x = v := some.inj (h.start.symm.trans hv)
            rw [h.split_first]
            rfl
          · exact hfs
        · rw [lookup_insert,if_neg,ho q hq]
          rintro rfl
          exact hq ⟨ps,by rw [← hps,h.parts]⟩
    · exact ih hfs ho

lemma lookup_setInner (new : Value) :
    (b.setInner key new).attributes.lookup first = some (Graph.setInner rest new x) ∧
      ∀ q, ¬ split q "." <+: first :: rest → (b.setInner key new).attributes.lookup q = b.attributes.lookup q := by
  have hf := h.split_first
  have hne : first ≠ key := by
    rintro rfl
    exact h.below (List.cons.inj (h.parts.symm.trans hf)).2
  have hs : (Graph.setInner (first::rest) new (.dict b.attributes)).fields =
      insert key new (setField rest new first b.attributes) := by
    have hhs : has b.attributes first := by simp [has,get?,h.start]
    have hj : join "." (first::rest) = key := by rw [← h.parts,join_split]
    have hh : has b.attributes key := h.present
    simp [Graph.setInner,entryKey?_of_has hhs,hj,hh,h.below,Value.fields]
  unfold setInner
  simp only [h.parts,hs]
  refine h.lookup_shown new b.views ?_ fun q hq => ?_
  · rw [lookup_insert,if_neg hne,lookup_setField,if_pos rfl,h.start]
    rfl
  · rw [lookup_insert,if_neg,lookup_setField,if_neg]
    · rintro rfl
      exact hq (by simp [hf])
    · rintro rfl
      exact hq (by simp [h.parts])

end Way

lemma lookup_assign {b : Block} (hd : contains key ".") (hnew : isContainer new = false)
    (q : String) : (b.assign false key new).1.attributes.lookup q =
      if 2 ≤ (split q ".").length ∧ split q "." <+: split key "."
        then some (chain ((split key ".").drop (split q ".").length) new) else b.attributes.lookup q := by
  have hi : new.items = [] := by
    cases new with
    | list xs => cases hnew
    | _ => rfl
  have hl : ((split key ".").length == 1) = false := by
    have := contains_dot_iff.1 hd
    simp only [beq_eq_false_iff_ne]
    omega
  have hs := lookup_stems (fun p (hp : p ∈ split key ".") => undotted_of_mem_split hp) new le_rfl b.attributes q
  rw [drop_length] at hs
  unfold assign
  simp only [hi,zipIdx_nil,foldl_nil,hl,Bool.false_eq_true,if_false]
  rw [attributes_foldl]
  refine hs.trans (if_congr ?_ rfl rfl)
  exact ⟨fun h => ⟨h.1,h.2.2⟩,fun h => ⟨h.1,h.2.length_le,h.2⟩⟩

def assigned (b : Block) (key : String) (new : Value) : Fields := ((b.setInner key new).assign false key new).1.attributes

/-- Each mapping on the way to a dotted name, below its first part, holds the way alone. -/
def Lone (fs : Fields) (key : String) : Prop :=
  ∀ other, Text.contains other "." → startsWith key (other ++ ".") →
    ∃ f, follow (split other ".") (.dict fs) = some (.dict [f])

lemma exists_way (hc : Coherent b.attributes) (hd : contains key ".") (hpresent : (b.attributes.lookup key).isSome) :
    ∃ first rest x old, b.Way key first rest x ∧ follow rest x = some old := by
  obtain ⟨old,hold⟩ := isSome_iff_exists.1 hpresent
  have hl := contains_dot_iff.1 hd
  have hf := hc key old hold
  cases hkey : split key "." with
  | nil => exact absurd hkey (split_ne_nil key)
  | cons first rest =>
    rw [hkey] at hf
    obtain ⟨x,hx,hwithin⟩ := bind_eq_some_iff.1 hf
    refine ⟨first,rest,x,old,⟨hkey,?_,hpresent,hx⟩,hwithin⟩
    rintro rfl
    simp [hkey] at hl

namespace Way

section

variable (h : b.Way key first rest x)

include h

lemma lone_iff :
    Lone b.attributes key ↔ ∀ qs, qs ≠ [] → qs <+: rest → qs ≠ rest → ∃ f, follow qs x = some (.dict [f]) := by
  constructor
  · rintro hl qs hqs ⟨r,rfl⟩ hp
    have hsp := h.split_join (prefix_append qs r)
    have hd : contains (join "." (first::qs)) "." := by
      rw [contains_dot_iff,hsp,length_cons]
      have := length_pos_iff.2 hqs
      omega
    have hst : startsWith key (join "." (first::qs) ++ ".") :=
      startsWith_dot_iff.2 ⟨r,by rintro rfl; simp at hp,by rw [h.parts,hsp]; rfl⟩
    simpa [hsp,follow,h.start] using hl _ hd hst
  · intro hl other hd hst
    obtain ⟨r,hr,ho⟩ := startsWith_dot_iff.1 hst
    have hln := contains_dot_iff.1 hd
    cases hs : split other "." with
    | nil => exact absurd hs (split_ne_nil other)
    | cons p qs =>
      rw [h.parts,hs] at ho
      obtain ⟨rfl,rfl⟩ := List.cons.inj ho
      have hqs : qs ≠ [] := by
        rintro rfl
        simp [hs] at hln
      simpa [follow,h.start] using hl qs hqs (by simp) (by simpa using hr)

variable (hnew : isContainer new = false)

include hnew

/-- The first part of the name has the value inside, every other name on the way stands for the way alone, and the rest is
as it was. -/
lemma lookup_assigned (q : String) : (b.assigned key new).lookup q = if q = first then some (Graph.setInner rest new x)
      else if split q "." <+: first :: rest then some (chain ((first::rest).drop (split q ".").length) new)
      else b.attributes.lookup q := by
  have hf := h.split_first
  obtain ⟨hs,ho⟩ := h.lookup_setInner new
  have hd : contains key "." := by
    rw [contains_dot_iff,h.parts,length_cons]
    have := length_pos_iff.2 h.below
    omega
  rw [assigned,lookup_assign hd hnew,h.parts]
  by_cases hq : q = first
  · rw [if_neg,if_pos hq,hq,hs]
    simp [hq,hf]
  · rw [if_neg hq]
    by_cases hb : split q "." <+: first :: rest
    · rw [if_pos,if_pos hb]
      refine ⟨?_,hb⟩
      by_contra hon
      obtain ⟨p,hp⟩ := length_eq_one_iff.1
        (by have := length_pos_iff.2 (split_ne_nil q); omega : (split q ".").length = 1)
      rw [hp,cons_prefix_cons] at hb
      apply hq
      rw [← join_split q,hp,hb.1]
      rfl
    · rw [if_neg fun h => hb h.2,if_neg hb]
      exact ho q hb

lemma lookup_assigned_self : (b.assigned key new).lookup key = some new := by
  have hne : key ≠ first := by
    rintro rfl
    exact h.below (by simpa [h.parts] using h.split_first)
  rw [h.lookup_assigned hnew,if_neg hne,h.parts,if_pos prefix_rfl,drop_length,chain]

lemma lookup_assigned_apart (hne : q ≠ key) (ha : startsWith key (q ++ ".") = false) :
    (b.assigned key new).lookup q = b.attributes.lookup q := by
  have hn : ¬ split q "." <+: first :: rest := by
    rintro ⟨r,hr⟩
    have hnl : r ≠ [] := by
      rintro rfl
      exact hne (by rw [← join_split q,← append_nil (split q "."),hr,← h.parts,join_split])
    rw [startsWith_dot_iff.2 ⟨r,hnl,by rw [h.parts,hr]⟩] at ha
    cases ha
  rw [h.lookup_assigned hnew,if_neg,if_neg hn]
  rintro rfl
  exact hn (by simp [h.split_first])

lemma follow_assigned (hp : Undotted p) (ps : List String) : follow (p::ps) (.dict (b.assigned key new)) =
      if p = first then follow ps (Graph.setInner rest new x) else follow (p::ps) (.dict b.attributes) := by
  rw [follow,h.lookup_assigned hnew,split_of_undotted hp]
  by_cases hpf : p = first
  · simp [hpf]
  · simp [hpf,cons_prefix_cons,follow]

lemma chain_of_coherent (hc : Coherent (b.assigned key new)) (hqs : qs ≠ []) (hw : qs <+: rest) :
    follow qs (Graph.setInner rest new x) = some (chain (rest.drop qs.length) new) := by
  have hf := h.split_first
  have hs := h.split_join hw
  have hne : join "." (first::qs) ≠ first := fun heq => hqs (by simpa [heq,hf] using hs.symm)
  have hat := h.lookup_assigned hnew (join "." (first::qs))
  rw [if_neg hne,hs,if_pos (by simpa using hw)] at hat
  have hfl := hc _ _ hat
  rwa [hs,h.follow_assigned hnew (h.undotted mem_cons_self),if_pos rfl] at hfl

variable (hnested : Nested x) (hwithin : follow rest x = some old)

include hnested hwithin

lemma not_below_of_coherent (hc : Coherent (b.assigned key new))
    (hq : (b.attributes.lookup q).isSome) : startsWith q (key ++ ".") = false := by
  have hf := h.split_first
  by_contra hb
  obtain ⟨r,hr,hs⟩ := startsWith_dot_iff.1 (Bool.not_eq_false _ ▸ hb)
  rw [h.parts,cons_append] at hs
  obtain ⟨w,hw⟩ := isSome_iff_exists.1 hq
  have hne : q ≠ first := by
    rintro rfl
    simp [hf,h.below] at hs
  have hn : ¬ first :: (rest ++ r) <+: first :: rest := not_append_within (first::rest) hr
  have hat := h.lookup_assigned hnew q
  rw [if_neg hne,hs,if_neg hn,hw] at hat
  -- The value that was set would have to be a mapping.
  have hfl := hc q w hat
  rw [hs,h.follow_assigned hnew (h.undotted mem_cons_self),if_pos rfl,
    follow_setInner h.below h.rest_undotted hnested hwithin,if_pos (by simp),drop_left] at hfl
  obtain ⟨fs,-,rfl,-⟩ := exists_of_follow (cons_head_tail hr ▸ hfl)
  cases hnew

lemma coherent_assigned (hc : Coherent b.attributes) (hch : ∀ qs, qs ≠ [] → qs <+: rest → qs ≠ rest →
      follow qs (Graph.setInner rest new x) = some (chain (rest.drop qs.length) new))
    (hb : ∀ q, (b.attributes.lookup q).isSome → startsWith q (key ++ ".") = false) : Coherent (b.assigned key new) := by
  intro q w hw
  have hat := h.lookup_assigned hnew q
  rw [hw] at hat
  cases hs : split q "." with
  | nil => exact absurd hs (split_ne_nil q)
  | cons p qs =>
  rw [hs] at hat
  rw [h.follow_assigned hnew (undotted_of_mem_split (s := q) (by simp [hs]))]
  by_cases hq : q = first
  · rw [if_pos hq] at hat
    obtain ⟨rfl,rfl⟩ := List.cons.inj (hs.symm.trans (hq ▸ h.split_first))
    rw [if_pos hq,hat,follow]
  rw [if_neg hq] at hat
  by_cases hp : p = first
  · subst hp
    have hqs : qs ≠ [] := by
      rintro rfl
      exact hq (by rw [← join_split q,hs]; rfl)
    rw [if_pos rfl]
    by_cases hwy : qs <+: rest
    · rw [if_pos (by simpa using hwy)] at hat
      rw [some.inj hat]
      by_cases he : qs = rest
      · rw [he,follow_setInner h.below h.rest_undotted hnested hwithin,if_pos (by simp)]
        simp [follow,chain]
      · exact hch qs hqs hwy he
    · rw [if_neg (by simpa using hwy)] at hat
      have hbf := hc q w hat.symm
      rw [hs,follow,h.start,bind_some] at hbf
      rw [follow_setInner h.below h.rest_undotted hnested hwithin,if_neg,if_neg hwy,hbf]
      -- A name below the one that was set would not be absent.
      rintro ⟨r,rfl⟩
      have hr : r ≠ [] := by
        rintro rfl
        exact hwy (by simp)
      have hn := hb q (by simp [← hat])
      rw [startsWith_dot_iff.2 ⟨r,hr,by rw [h.parts,hs]; rfl⟩] at hn
      cases hn
  · rw [if_neg (by simp [cons_prefix_cons,hp])] at hat
    rw [if_neg hp,← hs]
    exact hc q w hat.symm

end

end Way

/-- Setting an attribute at a dotted name leaves the views coherent just if the way to the name is alone in its mappings
and nothing stands below the name. -/
lemma coherent_assigned_iff (hnested : ∀ f ∈ b.attributes, Nested f.2) (hc : Coherent b.attributes)
    (hd : contains key ".") (hpresent : (b.attributes.lookup key).isSome)
    (hnew : isContainer new = false) : Coherent (b.assigned key new) ↔
      Lone b.attributes key ∧ ∀ q, (b.attributes.lookup q).isSome → startsWith q (key ++ ".") = false := by
  obtain ⟨first,rest,x,old,h,hwithin⟩ := exists_way hc hd hpresent
  have hx : Nested x := hnested _ (mem_of_lookup h.start)
  rw [h.lone_iff,← follow_eq_chain_iff h.rest_undotted hx hwithin new]
  constructor
  · intro ha
    exact ⟨fun qs hqs hw _ => h.chain_of_coherent hnew ha hqs hw,
      fun q hq => h.not_below_of_coherent hnew hx hwithin ha hq⟩
  · rintro ⟨hch,hb⟩
    exact h.coherent_assigned hnew hx hwithin hc hch hb

end Block

lemma attributes_changeAttribute {g : Graph} (hi : i < g.vertices.size) (key : String) (new : Value)
    (origin : Nat) (place : Option String) :
    ((g.changeAttribute i key new origin place).vertex i).attributes = (g.vertex i).assigned key new := by
  have ht : ∀ o k, (g.trailFrom o k).1.vertices = g.vertices := by
    intro o k
    unfold trailFrom
    dsimp only
    split <;> rfl
  have he : ∀ (h : Graph) t, (h.extendTrail t origin place).vertices = h.vertices := by
    intro h t
    unfold extendTrail
    dsimp only
    split <;> rfl
  simp [Block.assigned,changeAttribute,modifyVertex,vertex,he,ht,hi,markChanged,Array.getD,Array.getElem_modify]

/-- A part of an attribute gets a value from another block: it has the value, and what is neither the part nor above it is as
it was. The views stay coherent just if nothing stands beside the way to the part or below the part. -/
theorem coherent_changeAttribute_iff {g : Graph} {i : Nat} (hi : i < g.vertices.size)
    (hnested : ∀ f ∈ (g.vertex i).attributes, Nested f.2) (hcoherent : Coherent (g.vertex i).attributes) {key : String}
    (hdotted : contains key "." = true) (hpresent : ((g.vertex i).attributes.lookup key).isSome = true) {new : Value}
    (hnew : Block.isContainer new = false) (origin : Nat) (place : Option String) :
    let before := (g.vertex i).attributes
    let after := ((g.changeAttribute i key new origin place).vertex i).attributes
    after.lookup key = some new ∧
      (∀ q, q ≠ key → startsWith key (q ++ ".") = false → after.lookup q = before.lookup q) ∧
      (Coherent after ↔
        Block.Lone before key ∧ ∀ q, (before.lookup q).isSome = true → startsWith q (key ++ ".") = false) := by
  obtain ⟨first,rest,x,old,hway,-⟩ := Block.exists_way hcoherent hdotted hpresent
  intro before after
  have hafter : after = (g.vertex i).assigned key new := attributes_changeAttribute hi key new origin place
  rw [hafter]
  exact ⟨hway.lookup_assigned_self hnew,fun q hne hapart => hway.lookup_assigned_apart hnew hne hapart,
    Block.coherent_assigned_iff hnested hcoherent hdotted hpresent hnew⟩

def twoSettings : Fields :=
  let inner := Value.dict [("c","x"),("d","keep")]
  [("settings",.dict [("inner",inner)]),("settings.inner",inner),("settings.inner.c","x"), ("settings.inner.d","keep")]

lemma nested_twoSettings : ∀ f ∈ twoSettings, Nested f.2 := by
  have hw : ∀ s, Nested (.str s) := fun s => .leaf rfl
  have hi : Nested (.dict [("c","x"),("d","keep")]) := .mapping (by simp [Undotted]) (by simp [hw])
  have hs : Nested (.dict [("inner",.dict [("c","x"),("d","keep")])]) :=
    .mapping (by simp [Undotted]) (by simpa using hi)
  simp [twoSettings,hi,hs,hw]

lemma coherent_twoSettings : Coherent twoSettings := by
  intro key v h
  have hm := mem_of_lookup h
  simp only [twoSettings,mem_cons,not_mem_nil,or_false,Prod.mk.injEq] at hm
  rcases hm with ⟨rfl,rfl⟩ | ⟨rfl,rfl⟩ | ⟨rfl,rfl⟩ | ⟨rfl,rfl⟩ <;> rfl

theorem coherent_changeAttribute_iff_twoSettings :
    let g : Graph := {vertices := #[{(default : Block) with attributes := twoSettings}]}
    ¬ Coherent ((g.changeAttribute 0 "settings.inner.c" (.str "first") 0 none).vertex 0).attributes := by
  intro g hafter
  have hdotted : Text.contains "settings.inner.c" "." = true := by decide
  have hnew : Block.isContainer (.str "first") = false := rfl
  obtain ⟨-,-,hiff⟩ := coherent_changeAttribute_iff (g := g) (i := 0) (by decide) nested_twoSettings coherent_twoSettings
    hdotted rfl hnew 0 none
  obtain ⟨f,hf⟩ := (hiff.1 hafter).1 "settings.inner" (by decide) (by decide)
  have hinner : follow (split "settings.inner" ".") (.dict twoSettings) =
      some (.dict [("c",.str "x"),("d",.str "keep")]) := rfl
  cases hinner.symm.trans hf

end Graph

end InfraAudit
