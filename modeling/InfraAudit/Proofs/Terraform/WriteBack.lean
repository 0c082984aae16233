import InfraAudit.Terraform.Rendering
import InfraAudit.Proofs.Graph.Coherence

/-!
Writing rendered attributes back into a configuration. A changed attribute without dots loses its value just if the name of
another changed attribute starts with its own.
-/

namespace InfraAudit.Terraform.Rendering

open List Bool Text Fields Prod

open InfraAudit.Graph (Block withoutStems)
open InfraAudit.Text (Undotted split startsWith)

/-- A value in the place of another one: a single value in the place of a list becomes a list, and null neither gives way nor
takes a place. -/
def inPlace (old new : Value) : Value :=
  if old.isNull || new.isNull then old else if old.isList && !new.isList then .list [new] else new

def Settled (fs : Fields) (p : String) : Prop := ∃ v, fs.lookup p = some v ∧ v.isNull = false

/-- Some mapping inside a value has a key, not with null. -/
inductive Mentions (p : String) : Value → Prop
  | here {fs : Fields} : Settled fs p → Mentions p (.dict fs)
  | field {fs : Fields} {f : String × Value} : f ∈ fs → Mentions p f.2 → Mentions p (.dict fs)
  | item {xs : List Value} {x : Value} : x ∈ xs → Mentions p x → Mentions p (.list xs)

lemma inPlace_of_null (h : old.isNull || new.isNull) : inPlace old new = old := by rw [inPlace,if_pos h]

lemma inPlace_of_not_null (h : (old.isNull || new.isNull) = false) :
    inPlace old new = if old.isList && !new.isList then .list [new] else new := by
  rw [inPlace,h,if_neg Bool.false_ne_true]

lemma isNull_inPlace (old new : Value) : (inPlace old new).isNull = old.isNull := by
  cases h : old.isNull || new.isNull with
  | true => rw [inPlace_of_null h]
  | false =>
    obtain ⟨hold,hn⟩ := or_eq_false_iff.1 h
    rw [inPlace_of_not_null h,hold]
    split
    · rfl
    · exact hn

lemma inPlace_inPlace (old new : Value) : inPlace (inPlace old new) new = inPlace old new := by
  cases h : old.isNull || new.isNull with
  | true => rw [inPlace_of_null h,inPlace_of_null h]
  | false =>
    rw [inPlace_of_not_null (by rw [isNull_inPlace,h]),inPlace_of_not_null h]
    cases hl : old.isList && !new.isList with
    | true =>
      have hs : new.isList = false := by simpa using (and_eq_true_iff.1 hl).2
      have hls : (Value.list [new]).isList := rfl
      simp [hs,hls]
    | false => simp

lemma Mentions.of_inPlace (h : Mentions p (inPlace old new)) : Mentions p old ∨ Mentions p new := by
  cases hn : old.isNull || new.isNull with
  | true => exact .inl (inPlace_of_null hn ▸ h)
  | false =>
    rw [inPlace_of_not_null hn] at h
    split at h
    · cases h with
      | item hx h => exact .inr (mem_singleton.1 hx ▸ h)
    · exact .inr h

lemma updateConfig_of_not_settled (h : ¬ Settled fs p) :
    updateConfig (p::ps) new (.dict fs) = .dict (updateAllFields (p::ps) new fs) := by
  rw [updateConfig,headD_cons]
  split
  · next old hold =>
    rw [if_pos]
    by_contra hn
    exact h ⟨old,hold,not_eq_true _ ▸ hn⟩
  · rfl

mutual

lemma updateConfig_of_not_mentions : ∀ {v : Value}, ¬ Mentions p v → updateConfig (p::ps) new v = v
  | .dict fs,h => by
    rw [updateConfig_of_not_settled fun hs => h (.here hs),
      updateAllFields_of_not_mentions fun f hf hm => h (.field hf hm)]
  | .list xs,h => by rw [updateConfig,updateItems_of_not_mentions fun x hx hm => h (.item hx hm)]
  | .null, _ | .bool _, _ | .int _, _ | .float _, _ | .str _, _ | .tuple _, _ | .set _, _ | .table _, _ | .element _, _
  | .thing _,_ => rfl

lemma updateAllFields_of_not_mentions :
    ∀ {fs : Fields}, (∀ f ∈ fs, ¬ Mentions p f.2) → updateAllFields (p::ps) new fs = fs
  | [],_ => rfl
  | (k,v)::fs,h => by
    rw [updateAllFields,updateConfig_of_not_mentions (h (k,v) (by simp)),
      updateAllFields_of_not_mentions fun f hf => h f (by simp [hf])]

lemma updateItems_of_not_mentions : ∀ {xs : List Value}, (∀ x ∈ xs, ¬ Mentions p x) → updateItems (p::ps) new xs = xs
  | [],_ => rfl
  | x::xs,h => by
    rw [updateItems,updateConfig_of_not_mentions (h x (by simp)),updateItems_of_not_mentions fun y hy => h y (by simp [hy])]

end

lemma isNull_updateConfig (parts : List String) (new v : Value) : (updateConfig parts new v).isNull = v.isNull := by
  fun_cases updateConfig parts new v <;> rfl

lemma lookup_updateField (key : String) (parts : List String) (new : Value) (fs : Fields) (q : String) :
    (updateField key parts new fs).lookup q =
      if q = key then (fs.lookup q).map (updateConfig parts new) else fs.lookup q := by
  induction fs with
  | nil => simp [updateField]
  | cons f fs ih => grind [updateField,Fields.lookup_cons]

lemma lookup_updateAllFields (parts : List String) (new : Value) (fs : Fields) (q : String) :
    (updateAllFields parts new fs).lookup q = (fs.lookup q).map (updateConfig parts new) := by
  induction fs with
  | nil => simp [updateAllFields]
  | cons f fs ih => grind [updateAllFields,Fields.lookup_cons]

lemma updateConfig_dict (p : String) (ps : List String) (fs : Fields) (hnw : new.isNull = false) :
    ∃ gs, updateConfig (p::ps) new (.dict fs) = .dict gs ∧ (Settled fs p → ∀ q, gs.lookup q = if q = p
        then (fs.lookup q).map fun old => if ps = [] then inPlace old new else updateConfig ps new old else fs.lookup q) ∧
      (¬ Settled fs p → ∀ q, gs.lookup q = (fs.lookup q).map (updateConfig (p::ps) new)) := by
  by_cases hs : Settled fs p
  · obtain ⟨old,hold,hn⟩ := hs
    have hg : get? fs p = some old := hold
    by_cases hps : ps = []
    · refine ⟨insert p (inPlace old new) fs,?_,fun _ q => ?_,fun h => absurd ⟨old,hold,hn⟩ h⟩
      · simp [updateConfig,hg,hn,hnw,hps,inPlace]
      · rw [lookup_insert]
        split
        · next h => simp [h,hold]
        · rfl
    · refine ⟨updateField p ps new fs,?_,fun _ q => ?_,fun h => absurd ⟨old,hold,hn⟩ h⟩
      · simp [updateConfig,hg,hn,length_eq_zero_iff,hps]
      · simp [lookup_updateField,hps]
  · exact ⟨_,updateConfig_of_not_settled hs,fun h => absurd h hs,fun _ => lookup_updateAllFields _ _ _⟩

lemma Settled.updateConfig (hnw : new.isNull = false)
    (h : updateConfig (p::ps) new (.dict fs) = .dict gs) (hq : Settled fs q) : Settled gs q := by
  obtain ⟨x,hx,hn⟩ := hq
  obtain ⟨gs',hgs,hat,he⟩ := updateConfig_dict p ps fs hnw
  obtain rfl : gs' = gs := by simpa [hgs] using h
  by_cases hs : Settled fs p
  · have hl := hat hs q
    split at hl
    · refine ⟨_,by rw [hl,hx]; rfl,?_⟩
      split
      · rw [isNull_inPlace,hn]
      · rw [isNull_updateConfig,hn]
    · exact ⟨x,by rw [hl,hx],hn⟩
  · exact ⟨_,by rw [he hs,hx]; rfl,by rw [isNull_updateConfig,hn]⟩

def firstPart (key : String) : String := (split key ".").headD ""

def written (attributes : Fields) (v : Value) (key : String) : Value :=
  match get? attributes key with
  | none => v
  | some .null => v
  | some new => updateKey key new v

lemma written_eq (attributes : Fields) (v : Value) (key : String) : written attributes v key =
      if ((attributes.lookup key).getD .null).isNull then v else updateKey key ((attributes.lookup key).getD .null) v := by
  unfold written get?
  split
  · next h => simp [h,Value.isNull]
  · next h => simp [h,Value.isNull]
  · next new hne h =>
    rw [h,Option.getD_some,if_neg]
    cases new with
    | null => exact (hne rfl).elim
    | _ => simp [Value.isNull]

section

variable (attributes : Fields) (hk : Undotted k)

/-- Writing an attribute back leaves another alone that is not above it, if its first part stands in
the configuration or is nowhere in what the other holds. -/
lemma written_other (hold : fs.lookup k = some old) (hf : firstPart o ≠ k)
    (hsf : Settled fs (firstPart o) ∨ ¬ Mentions (firstPart o) old) :
    ∃ gs, written attributes (.dict fs) o = .dict gs ∧ gs.lookup k = some old ∧ ∀ q, Settled fs q → Settled gs q := by
  rw [written_eq]
  split
  · exact ⟨fs,rfl,hold,fun q hq => hq⟩
  · next hn =>
    rw [not_eq_true] at hn
    unfold updateKey
    unfold firstPart at hf hsf
    cases hs : split o "." with
    | nil => exact absurd hs (split_ne_nil o)
    | cons p ps =>
      rw [hs,headD_cons] at hf hsf
      obtain ⟨gs,hgs,hat,he⟩ := updateConfig_dict p ps fs hn
      refine ⟨gs,hgs,?_,fun q hq => hq.updateConfig hn hgs⟩
      by_cases hst : Settled fs p
      · rw [hat hst,if_neg (Ne.symm hf),hold]
      · rw [he hst,hold,Option.map_some,updateConfig_of_not_mentions (hsf.resolve_left hst)]

include hk

lemma written_self (hold : fs.lookup k = some old) : ∃ gs, written attributes (.dict fs) k = .dict gs ∧
      gs.lookup k = some (inPlace old ((attributes.lookup k).getD .null)) ∧ ∀ q, Settled fs q → Settled gs q := by
  rw [written_eq]
  split
  · next hnw => exact ⟨fs,rfl,by rw [hold,inPlace_of_null (by simp [hnw])],fun q hq => hq⟩
  · next hnw =>
    rw [not_eq_true] at hnw
    unfold updateKey
    rw [split_of_undotted hk]
    obtain ⟨gs,hgs,hat,he⟩ := updateConfig_dict k [] fs hnw
    refine ⟨gs,hgs,?_,fun q hq => hq.updateConfig hnw hgs⟩
    by_cases hs : Settled fs k
    · rw [hat hs,if_pos rfl,hold,Option.map_some,if_pos rfl]
    · have hn : old.isNull := by
        by_contra hn
        exact hs ⟨old,hold,not_eq_true _ ▸ hn⟩
      obtain rfl : old = .null := by
        cases old with
        | null => rfl
        | _ => cases hn
      rw [he hs,hold,inPlace_of_null (by simp [hn])]
      rfl

lemma written_all (keys : List String) (hold : fs.lookup k = some old)
    (hot : ∀ o ∈ keys, o ≠ k → firstPart o ≠ k ∧ (Settled fs (firstPart o) ∨
      ¬ Mentions (firstPart o) old ∧ ¬ Mentions (firstPart o) ((attributes.lookup k).getD .null))) :
    ∃ gs, keys.foldl (written attributes) (.dict fs) = .dict gs ∧
      gs.lookup k = some (if k ∈ keys then inPlace old ((attributes.lookup k).getD .null) else old) := by
  induction keys generalizing fs old with
  | nil => exact ⟨fs,rfl,by simp [hold]⟩
  | cons o keys ih =>
    rw [foldl_cons]
    by_cases ho : o = k
    · subst ho
      obtain ⟨gs,hgs,hn,hkp⟩ := written_self attributes hk hold
      rw [hgs]
      obtain ⟨hs,hhs,hl⟩ := ih hn fun o' ho' hne => by
        obtain ⟨hf,hsf⟩ := hot o' (by simp [ho']) hne
        refine ⟨hf,hsf.imp (hkp _) fun ⟨h,h'⟩ => ⟨fun hm => hm.of_inPlace.elim h h',h'⟩⟩
      refine ⟨hs,hhs,hl.trans ?_⟩
      simp [inPlace_inPlace]
    · obtain ⟨hf,hsf⟩ := hot o (by simp) ho
      obtain ⟨gs,hgs,hn,hkp⟩ := written_other attributes hold hf (hsf.imp_right And.left)
      rw [hgs]
      obtain ⟨hs,hhs,hl⟩ := ih hn fun o' ho' hne =>
        (hot o' (by simp [ho']) hne).imp_right fun hsf => hsf.imp_left (hkp _)
      refine ⟨hs,hhs,hl.trans ?_⟩
      simp [Ne.symm ho]

end

/-- A block for the resource of a type with a name, and what its configuration says under the two. -/
structure IsResource (b : Block) (type name : String) (conf : Fields) : Prop where
  kind : b.kind = "resource"
  named : b.name = type ++ "." ++ name
  undotted : Undotted type ∧ Undotted name
  config : ∃ types names, b.config = .dict types ∧ types.lookup type = some (.dict names) ∧
    names.lookup name = some (.dict conf)

namespace IsResource

variable (h : IsResource b type name conf)

include h

lemma split_name : split b.name "." = [type,name] := by
  rw [h.named,split_dotted,split_of_undotted h.undotted.1,split_of_undotted h.undotted.2]
  rfl

lemma enter_name : enter b.config [] (split b.name ".") = .ok (.dict conf) := by
  have hs : ∀ (fs : Fields) (p : String) (v : Value) (ps : List String), fs.lookup p = some v →
      enter (.dict fs) [] (p::ps) = enter v [] ps := by
    intro fs p v ps hv
    have hj : join "." [p] = p := rfl
    have hh : (Value.dict fs).has p = .ok true := by
      simp [Value.has,Value.holds,Value.hashable,Value.text?,has,get?,hv]
    have hf : (Value.dict fs).field p = .ok v := by
      simp [Value.field,Value.item,Value.hashable,hv]
    simp [enter,hj,hh,hf]
  obtain ⟨types,names,hc,ht,hn⟩ := h.config
  rw [h.split_name,hc,hs types type _ _ ht,hs names name _ _ hn,enter]

lemma writeBack_eq {keys : List String} (hky : keys ≠ []) : writeBack b keys =
      .ok {b with config := updateKey b.name (keys.foldl (written b.attributes) (.dict conf)) b.config} := by
  have hl : (b.kind == "locals") = false := by
    rw [h.kind]
    decide
  have he : keys.isEmpty = false := by simpa using hky
  unfold writeBack
  simp only [he,hl,h.enter_name,false_eq_true,if_false]
  rfl

lemma withConfig (conf' : Fields) :
    IsResource {b with config := updateKey b.name (.dict conf') b.config} type name conf' := by
  obtain ⟨types,names,hc,ht,hn⟩ := h.config
  refine ⟨h.kind,h.named,h.undotted,
    updateField type [name] (.dict conf') types,insert name (.dict conf') names,?_,?_,?_⟩
  · have ht' : get? types type = some (.dict names) := ht
    show updateConfig (split b.name ".") _ b.config = _
    simp [h.split_name,hc,updateConfig,ht',Value.isNull]
  · have hn' : get? names name = some (.dict conf) := hn
    simp [lookup_updateField,ht,updateConfig,hn',Value.isNull,Value.isList]
  · rw [lookup_insert,if_pos rfl]

end IsResource

lemma mem_withoutStems_iff {keys : List String} (hk : k ∈ keys) :
    k ∈ withoutStems keys ↔ ¬ (keys.any fun o => o != k && startsWith o k) := by
  rw [withoutStems,mem_filter,not_eq_true']
  simp [hk]

lemma firstPart_ne (hk : Undotted k) (hne : o ≠ k) (hb : startsWith o (k ++ ".") = false) : firstPart o ≠ k := by
  unfold firstPart
  cases hs : split o "." with
  | nil => exact absurd hs (split_ne_nil o)
  | cons p ps =>
    rw [headD_cons]
    rintro rfl
    have hps : ps ≠ [] := by
      rintro rfl
      exact hne (by rw [← join_split o,hs]; rfl)
    rw [startsWith_dot_iff.2 ⟨ps,hps,by rw [hs,split_of_undotted hk]; rfl⟩] at hb
    cases hb

/-- An undotted attribute that was changed stands in the written configuration, if no attribute below it was changed and no
other one is written into it, but for one case: it is lost if another changed attribute starts with its name. -/
theorem writeBack_holds_unless_start {b : Block} {type name : String} {conf : Fields} (hb : IsResource b type name conf)
    {k : String} (hk : Undotted k) (hchanged : k ∈ b.changed.map fst) {old : Value} (hold : conf.lookup k = some old)
    (hbelow : ∀ o ∈ b.changed.map fst, startsWith o (k ++ ".") = false)
    (hothers : ∀ o ∈ b.changed.map fst, o ≠ k → Settled conf (firstPart o) ∨
      ¬ Mentions (firstPart o) old ∧ ¬ Mentions (firstPart o) ((b.attributes.lookup k).getD .null)) :
    ∃ b' conf', writeBack b (withoutStems (b.changed.map fst)) = .ok b' ∧ IsResource b' type name conf' ∧
      conf'.lookup k = some (if (b.changed.map fst).any fun o => o != k && startsWith o k
        then old else inPlace old ((b.attributes.lookup k).getD .null)) := by
  have hmem := mem_withoutStems_iff hchanged
  generalize hkeys : withoutStems (b.changed.map fst) = keys at hmem ⊢
  have hsub : ∀ o ∈ keys, o ∈ b.changed.map fst := by
    rw [← hkeys]
    exact fun o ho => (List.mem_filter.1 ho).1
  by_cases hnil : keys = []
  · subst hnil
    refine ⟨b,conf,rfl,hb,?_⟩
    rw [hold,if_pos]
    by_contra hnone
    exact absurd (hmem.2 hnone) List.not_mem_nil
  · obtain ⟨gs,hgs,hlast⟩ := written_all b.attributes hk keys hold fun o ho hne =>
      ⟨firstPart_ne hk hne (hbelow o (hsub o ho)),hothers o (hsub o ho) hne⟩
    refine ⟨_,gs,hb.writeBack_eq hnil,hgs ▸ hb.withConfig gs,?_⟩
    rw [hlast,if_congr hmem rfl rfl,ite_not]

def balancerFields : Fields := [("name",.list ["$\x7bvar.a\x7d"]),("name_prefix",.list ["$\x7bvar.b\x7d"])]

def balancer : Block :=
  { (default : Block) with
    kind := "resource"
    name := "aws_lb.web"
    config := .dict [("aws_lb",.dict [("web",.dict balancerFields)])]
    attributes := [("name","first"),("name_prefix","second")]
    changed := [("name",0),("name_prefix",1)] }

theorem writeBack_holds_unless_start_balancer :
    ∃ b' conf', writeBack balancer (withoutStems ["name","name_prefix"]) = .ok b' ∧ IsResource b' "aws_lb" "web" conf' ∧
      conf'.lookup "name" = some (.list [.str "$\x7bvar.a\x7d"]) := by
  have hb : IsResource balancer "aws_lb" "web" balancerFields :=
    ⟨rfl,by decide,by simp [Undotted],_,_,rfl,rfl,rfl⟩
  have hname : Undotted "name" := by simp [Undotted]
  obtain ⟨b',conf',hok,hb',hlookup⟩ := writeBack_holds_unless_start hb hname (by simp [balancer]) rfl (by decide) (by
    intro o ho hne
    obtain rfl : o = "name_prefix" := by simpa [balancer,hne] using ho
    exact .inl ⟨.list [.str "$\x7bvar.b\x7d"],rfl,rfl⟩)
  exact ⟨b',conf',hok,hb',hlookup.trans (by rw [if_pos (by decide)])⟩

end InfraAudit.Terraform.Rendering
