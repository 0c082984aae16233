import InfraAudit.Proofs.Policy.Written
import InfraAudit.Proofs.Text.Dotted
import InfraAudit.Terraform.Scan

/-!
Plans. Every managed resource with values becomes one block, those of the root first and those of a module behind the ones
of the modules in it.
-/

namespace InfraAudit.Terraform

open List Value Except Plan

namespace Plan

variable {r m v w plan conf : Value} {bs xs : List Value}

def under (v : Value) (key : String) : Value := (v.fields.lookup key).getD (.dict [])

def root (plan : Value) : Value := under (under plan "planned_values") "root_module"

def listed (m : Value) (key : String) : List Value := ((m.fields.lookup key).bind fun v => v.elems.toOption).getD []

def resources (m : Value) : List Value := listed m "resources"

def submodules (m : Value) : List Value := (listed m "child_modules").filter isDict

lemma sizeOf_elem (h : v.elems = .ok xs) (hx : x ∈ xs) (hd : x.isDict) : sizeOf x < sizeOf v := by
  cases v with
  | list ys | tuple ys | set ys =>
    cases h
    have hlt := sizeOf_lt_of_mem hx
    simp
    omega
  | dict fs =>
    cases h
    obtain ⟨f,-,rfl⟩ := mem_map.1 hx
    cases hd
  | table es =>
    cases h
    obtain ⟨e,he,rfl⟩ := mem_map.1 hx
    have hlt := sizeOf_lt_of_mem he
    obtain ⟨k,w⟩ := e
    simp at hlt ⊢
    omega
  | str s | element s =>
    cases h
    obtain ⟨c,-,rfl⟩ := mem_map.1 hx
    cases hd
  | _ => cases h

lemma sizeOf_submodule (h : c ∈ submodules m) : sizeOf c < sizeOf m := by
  obtain ⟨hl,hd⟩ := mem_filter.1 h
  rw [listed] at hl
  cases m with
  | dict fs =>
    cases hg : fs.lookup "child_modules" with
    | none => simp [fields,hg] at hl
    | some v =>
      cases he : v.elems with
      | error e => simp [Value.fields,hg,he,Except.toOption] at hl
      | ok xs =>
        simp only [Value.fields,hg,he,Except.toOption,Option.bind_some,Option.getD_some] at hl
        have hin := sizeOf_lt_of_mem (mem_of_lookup hg)
        have hlt := sizeOf_elem he hl hd
        simp at hin ⊢
        omega
  | _ => simp [fields] at hl

/-- The resources of a module, behind those of the modules in it. -/
def inside (m : Value) : List Value := (submodules m).attach.flatMap (fun c => inside c.1) ++ resources m
termination_by sizeOf m
decreasing_by exact sizeOf_submodule c.2

/-- Managed, and with values. -/
def planned (r : Value) : Bool := r.getD "mode" == .str "managed" && r.hasKey "values"

def plannedIn (plan : Value) : List Value :=
  (resources (root plan) ++ (submodules (root plan)).flatMap inside).filter planned

/-- A block of one resource with the type, the name and the address of that resource. -/
def Carries (r b : Value) : Prop := ∃ type name own, b = .dict [(type,.dict [(name,.dict own)])] ∧
  (r.getD "type").text? = some type ∧ ((r.get? "name").getD (.str "default")).text? = some name ∧
    own.lookup addressKey = some (r.getD "address")

lemma inside_eq (m : Value) : inside m = (submodules m).flatMap inside ++ resources m := by
  rw [inside]
  simp

lemma eq_some_of_elim {α : Type} {o : Option α} {a : α} {f : Fault} (h : o.elim (error f) ok = ok a) : o = some a := by
  cases o with
  | none => cases h
  | some x => exact congrArg some (ok.inj h)

lemma of_field (h : v.field k = .ok w) : v.isDict = true ∧ v.get? k = some w := by
  cases v with
  | dict fs => exact ⟨rfl,eq_some_of_elim h⟩
  | table es => exact ⟨rfl,eq_some_of_elim h⟩
  | _ => cases h

lemma isPlanned_eq (h : r.isDict) : isPlanned r = .ok (planned r) := by
  simp only [isPlanned,planned,has_of_isDict h,get_of_isDict h,ok_bind]
  cases hm : r.get? "mode" with
  | none =>
    have hk : r.hasKey "mode" = false := by simp [hasKey,hm]
    have hn : (null == str "managed") = false := by decide +kernel
    have he : (str "" == str "managed") = false := by decide +kernel
    simp [hk,Value.getD,hm,hn,he]
  | some mode =>
    have hk : r.hasKey "mode" := by simp [hasKey,hm]
    simp only [hk,if_true]
    rfl

lemma address_changedSettings
    (h : changedSettings address changes own = .ok own') : own'.lookup addressKey = some address := by
  simp only [changedSettings] at h
  split at h
  · cases h
  split at h
  · cases h
    simp [Fields.lookup_insert]
  · obtain ⟨change,-,h⟩ := bind_eq_ok.1 h
    obtain ⟨actions,-,h⟩ := bind_eq_ok.1 h
    cases h
    simp [Fields.lookup_insert,addressKey,actionsKey]

lemma address_resourceSettings (hd : r.isDict)
    (h : resourceSettings r conf changes = .ok own) : own.lookup addressKey = some (r.getD "address") := by
  simp only [resourceSettings,get_of_isDict hd,ok_bind] at h
  split at h
  all_goals
    obtain ⟨expressions,-,h⟩ := bind_eq_ok.1 h
    obtain ⟨values,-,h⟩ := bind_eq_ok.1 h
    obtain ⟨before,-,h⟩ := bind_eq_ok.1 h
    exact address_changedSettings h

lemma resourceBlock_cases
    (h : resourceBlock r conf changes = .ok o) :
    (planned r = true ∧ ∃ b, o = some b ∧ Carries r b) ∨ (planned r = false ∧ o = none) := by
  rw [resourceBlock] at h
  obtain ⟨type,ht,h⟩ := bind_eq_ok.1 h
  obtain ⟨hd,hg⟩ := of_field ht
  simp only [isPlanned_eq hd,getOr_of_isDict hd,ok_bind] at h
  split at h
  · cases h
  cases hp : planned r with
  | false =>
    simp only [hp] at h
    cases h
    exact .inr ⟨rfl,rfl⟩
  | true =>
    simp only [hp] at h
    obtain ⟨own,ho,h⟩ := bind_eq_ok.1 h
    obtain ⟨type',ht',h⟩ := bind_eq_ok.1 h
    obtain ⟨name,hn,h⟩ := bind_eq_ok.1 h
    cases h
    refine .inl ⟨rfl,_,rfl,type',name,own,rfl,?_,eq_some_of_elim hn,address_resourceSettings hd ho⟩
    rw [Value.getD,hg]
    exact eq_some_of_elim ht'

lemma of_partOr (h : v.partOr k d = .ok w) : v.isDict ∧ w = (v.fields.lookup k).getD d := by
  cases v with
  | dict fs =>
    cases h
    exact ⟨rfl,rfl⟩
  | _ => cases h

lemma listed_eq (h : ((v.fields.lookup k).getD (.list [])).elems = .ok xs) : listed v k = xs := by
  rw [listed]
  cases hg : v.fields.lookup k with
  | none =>
    rw [hg] at h
    cases h
    rfl
  | some w =>
    rw [hg,Option.getD_some] at h
    simp [h,Except.toOption]

lemma elems_of_falsy (h : v.truthy = false) (hxs : v.elems = .ok xs) : xs = [] := by
  cases v <;> simp_all [truthy,elems] <;> exact hxs.symm

lemma listed_of_falsy (h : ((v.fields.lookup k).getD (.list [])).truthy = false) : listed v k = [] := by
  cases he : ((v.fields.lookup k).getD (.list [])).elems with
  | ok xs => rw [listed_eq he,elems_of_falsy h he]
  | error e =>
    rw [listed]
    cases hg : v.fields.lookup k with
    | none => rfl
    | some w =>
      rw [hg,Option.getD_some] at he
      simp [he,Except.toOption]

lemma inside_carry {nested : List Value}
    (hn : Forall₂ Carries (((submodules m).flatMap inside).filter planned) nested) (h : (do
      let own ← (← (← m.partOr "resources" (.list [])).elems).filterMapM fun r => resourceBlock r .null changes
      return nested ++ own) = .ok bs) : Forall₂ Carries ((inside m).filter planned) bs := by
  obtain ⟨part,hp,h⟩ := bind_eq_ok.1 h
  obtain ⟨rs,hrs,h⟩ := bind_eq_ok.1 h
  obtain ⟨own,how,h⟩ := bind_eq_ok.1 h
  cases h
  obtain ⟨-,rfl⟩ := of_partOr hp
  rw [inside_eq,filter_append,resources,listed_eq hrs]
  exact rel_append hn (forall₂_filterMapM (fun r _ o ho => resourceBlock_cases ho) how)

lemma childBlocks_carry (h : childBlocks changes n v = .ok bs) :
    ∃ ms, v.elems = .ok ms ∧ (∀ m ∈ ms, m.isDict) ∧ Forall₂ Carries ((ms.flatMap inside).filter planned) bs := by
  induction n generalizing v bs with
  | zero => cases h
  | succ n ih =>
    rw [childBlocks] at h
    obtain ⟨ms,hms,h⟩ := bind_eq_ok.1 h
    obtain ⟨bss,hb,h⟩ := bind_eq_ok.1 h
    cases h
    have hmd : Forall₂ (fun m bs => m.isDict ∧ Forall₂ Carries ((inside m).filter planned) bs) ms bss := by
      refine (mapM_eq_ok.1 hb).imp fun m bs hm => ?_
      obtain ⟨inner,hi,hm⟩ := bind_eq_ok.1 hm
      obtain ⟨hd,rfl⟩ := of_partOr hi
      refine ⟨hd,?_⟩
      split at hm
      · obtain ⟨nested,hn,hm⟩ := bind_eq_ok.1 hm
        obtain ⟨cs,hcs,ha,hc⟩ := ih hn
        refine inside_carry ?_ hm
        rwa [submodules,listed_eq hcs,filter_eq_self.2 ha]
      · next hf =>
        refine inside_carry ?_ hm
        rw [submodules,listed_of_falsy (by simpa using hf)]
        exact .nil
    obtain ⟨ha,hc⟩ := (forall₂_and_left ms bss).1 hmd
    refine ⟨ms,hms,ha,?_⟩
    rw [filter_flatMap,List.flatMap]
    exact rel_flatten (forall₂_map_left_iff.2 hc)

lemma root_of_ok (h : rootModule plan "planned_values" = .ok top) : root plan = top := by
  obtain ⟨planned,hp,h⟩ := bind_eq_ok.1 h
  obtain ⟨-,rfl⟩ := of_partOr hp
  obtain ⟨-,rfl⟩ := of_partOr h
  rfl

lemma exists_parts (h : blocks plan = .ok bs) : ∃ own nested, bs = own ++ nested ∧
    Forall₂ Carries ((resources (root plan)).filter planned) own ∧
      Forall₂ Carries (((submodules (root plan)).flatMap inside).filter planned) nested := by
  rw [blocks] at h
  obtain ⟨changes,-,h⟩ := bind_eq_ok.1 h
  obtain ⟨top,ht,h⟩ := bind_eq_ok.1 h
  obtain ⟨part,hp,h⟩ := bind_eq_ok.1 h
  obtain ⟨rs,hrs,h⟩ := bind_eq_ok.1 h
  obtain ⟨own,how,h⟩ := bind_eq_ok.1 h
  rw [ht,ok_bind] at h
  obtain ⟨inner,hi,h⟩ := bind_eq_ok.1 h
  obtain ⟨nested,hn,h⟩ := bind_eq_ok.1 h
  cases h
  obtain ⟨-,rfl⟩ := of_partOr hp
  obtain ⟨-,rfl⟩ := of_partOr hi
  obtain ⟨ms,hms,ha,hc⟩ := childBlocks_carry hn
  rw [root_of_ok ht,resources,submodules,listed_eq hrs,listed_eq hms,filter_eq_self.2 ha]
  refine ⟨own,nested,rfl,forall₂_filterMapM (fun r _ o ho => ?_) how,hc⟩
  obtain ⟨conf,-,ho⟩ := bind_eq_ok.1 ho
  exact resourceBlock_cases ho

/-- One block for each managed resource with values, with its type, name and address, and no other: first those of the root
in their order, then those of the modules, each behind the modules in it. -/
theorem blocks_carry_resources {plan : Value} {bs : List Value} (h : blocks plan = .ok bs) :
    Forall₂ Carries (plannedIn plan) bs := by
  obtain ⟨own,nested,rfl,hown,hnested⟩ := exists_parts h
  rw [plannedIn,List.filter_append]
  exact List.rel_append hown hnested

def queue (mode address : String) : Value :=
  .dict [("address",.str address),("mode",.str mode),("type","queue"),("name","q"),("values",.dict [])]

def inner : Value := .dict [("resources",.list [queue "managed" "module.a.module.b.queue.q"])]

def outer : Value := .dict [("resources",.list [queue "managed" "module.a.queue.q"]),("child_modules",.list [inner])]

def nestedPlan : Value := .dict [("planned_values",.dict [("root_module",.dict [
  ("resources",.list [queue "managed" "queue.q",queue "data" "data.queue.q"]),("child_modules",.list [outer])])])]

theorem blocks_carry_resources_nestedPlan : ∃ bs, blocks nestedPlan = .ok bs ∧ Forall₂ Carries
    [queue "managed" "queue.q",queue "managed" "module.a.module.b.queue.q",queue "managed" "module.a.queue.q"] bs := by
  have hinner : inside inner = [queue "managed" "module.a.module.b.queue.q"] := by
    rw [inside_eq]
    rfl
  have houter : inside outer = [queue "managed" "module.a.module.b.queue.q",queue "managed" "module.a.queue.q"] := by
    have hsub : submodules outer = [inner] := rfl
    rw [inside_eq,hsub,List.flatMap_singleton,hinner]
    rfl
  have hplanned : plannedIn nestedPlan =
      [queue "managed" "queue.q",queue "managed" "module.a.module.b.queue.q",queue "managed" "module.a.queue.q"] := by
    have hsub : submodules (root nestedPlan) = [outer] := rfl
    have hown : resources (root nestedPlan) = [queue "managed" "queue.q",queue "data" "data.queue.q"] := rfl
    have hqueue : ∀ mode address, planned (queue mode address) = (mode == "managed") := fun mode address =>
      (Bool.and_true _).trans (Value.beq_str mode "managed")
    rw [plannedIn,hsub,hown,List.flatMap_singleton,houter]
    simp [hqueue]
  obtain ⟨bs,hbs⟩ : ∃ bs, blocks nestedPlan = .ok bs := exists_of_isOk (by decide +kernel)
  exact ⟨bs,hbs,hplanned ▸ blocks_carry_resources hbs⟩

lemma exists_left {α β : Type} {R : α → β → Prop} {l : List α} {bs : List β} (h : Forall₂ R l bs) {b : β} (hb : b ∈ bs) :
    ∃ a ∈ l, R a b := by
  obtain ⟨i,hi,rfl⟩ := mem_iff_getElem.1 hb
  have hi' : i < l.length := h.length_eq ▸ hi
  exact ⟨l[i],getElem_mem hi',h.get hi' hi⟩

lemma shape_of_blocks (h : blocks plan = .ok bs) :
    ∀ b ∈ bs, ∃ type name conf, b = .dict [(type,.dict [(name,conf)])] := by
  obtain ⟨own,nested,rfl,ho,hn⟩ := exists_parts h
  intro b hb
  obtain ⟨r,-,type,name,fs,hs,-⟩ := exists_left (rel_append ho hn) hb
  exact ⟨type,name,_,hs⟩

end Plan

/-- The lines and the address that a block has of its own. -/
def spot? (conf : Value) : Option (LineRange × Option String) := do
  let first ← (conf.firstOf firstLine).toOption.bind int?
  let last ← (conf.firstOf lastLine).toOption.bind int?
  return (⟨first,last⟩,(conf.getD addressKey).text?)

namespace PlanFile

variable {p : PlanFile}

/-- A record of the file, at the place of the first block with the type and name in it. -/
def Points (p : PlanFile) (r : Record) : Prop := r.absoluteFile = p.path ∧ ∃ type name home,
  r.resource = some (type ++ "." ++ name) ∧ p.first? type name = some home ∧ spot? home = some (r.lines,r.address)

lemma first_of_place {path : List String} (h : p.place path = .ok at_) :
    ∃ type name home, path = [type,name] ∧ p.first? type name = some home ∧ spot? home = some (at_.lines,at_.address) := by
  unfold place at h
  split at h
  · next type name =>
    cases hf : p.first? type name with
    | none =>
      rw [hf] at h
      cases h
    | some home =>
      rw [hf] at h
      obtain ⟨v,hv,h⟩ := bind_eq_ok.1 h
      obtain ⟨first,hl,h⟩ := bind_eq_ok.1 h
      obtain ⟨w,hw,h⟩ := bind_eq_ok.1 h
      obtain ⟨last,hls,h⟩ := bind_eq_ok.1 h
      cases h
      exact ⟨type,name,home,rfl,hf,by simp [spot?,hv,hw,Except.toOption,eq_some_of_elim hl,eq_some_of_elim hls]⟩
  · cases h

/-- The records of one block: those of its findings, and at its own place just if that is the place of the first block of its
type and name. -/
structure Found (p : PlanFile) (checks : List Check) (sel : Selection) (type name : String) (conf : Value)
    (own : List Record) : Prop where
  findings : ∃ fs after, Entity.findings ⟨type,name,conf⟩ checks sel [] = .ok (fs,after) ∧
    own.map (·.checkId) = (fs.filter fun f => !lifecycleChecks.contains f.check.id).map (·.check.id)
  resource : ∀ r ∈ own, r.resource = some (type ++ "." ++ name)
  own_iff : (∀ r ∈ own, spot? conf = some (r.lines,r.address)) ↔ own = [] ∨ spot? conf = (p.first? type name).bind spot?

lemma found_of_place {type name : String} {fs : List Finding} {after : Value} (file : String)
    (hat : p.place [type,name] = .ok at_) (hfs : Entity.findings ⟨type,name,conf⟩ checks sel [] = .ok (fs,after)) :
    let own := (fs.filter fun f => !lifecycleChecks.contains f.check.id).map fun f =>
      {f.toRecord file p.path at_.lines at_.code (Text.join "." [type,name]) with address := at_.address}
    p.Found checks sel type name conf own ∧ ∀ r ∈ own, p.Points r := by
  intro own
  obtain ⟨_,_,home,⟨⟩,hf,hs⟩ := first_of_place hat
  have hrc : ∀ r ∈ own, r.absoluteFile = p.path ∧ r.resource = some (type ++ "." ++ name) ∧
      spot? home = some (r.lines,r.address) := by
    intro r hr
    obtain ⟨f,-,rfl⟩ := mem_map.1 hr
    exact ⟨rfl,by simp [Finding.toRecord,Text.join],hs⟩
  refine ⟨⟨⟨fs,after,hfs,?_⟩,fun r hr => (hrc r hr).2.1,?_⟩,fun r hr => ?_⟩
  · simp only [own,map_map]
    rfl
  · rw [hf,Option.bind_some]
    constructor
    · intro hsl
      rcases eq_nil_or_concat own with hn | ⟨rest,r,hl⟩
      · exact .inl hn
      · have hr : r ∈ own := by simp [hl]
        exact .inr ((hsl r hr).trans (hrc r hr).2.2.symm)
    · rintro (hn | hsm) r hr
      · simp [hn] at hr
      · exact hsm.trans (hrc r hr).2.2
  · obtain ⟨hfl,hrs,hs⟩ := hrc r hr
    exact ⟨hfl,type,name,home,hrs,hf,hs⟩

lemma exists_found {plan : Value} {rs : List Record} (hbl : Plan.blocks plan = .ok p.blocks)
    (h : p.records ws checks sel = .ok rs) : (∀ r ∈ rs, p.Points r) ∧ ∃ found : List (List Record), rs = found.flatten ∧
      Forall₂ (fun b own => ∃ type name conf, b = .dict [(type,.dict [(name,conf)])] ∧
        p.Found checks sel type name conf own) p.blocks found := by
  rw [records] at h
  obtain ⟨file,-,h⟩ := bind_eq_ok.1 h
  obtain ⟨found,hf,h⟩ := bind_eq_ok.1 h
  cases h
  have ha : Forall₂ (fun b own => ∃ type name conf, b = .dict [(type,.dict [(name,conf)])] ∧
      p.Found checks sel type name conf own ∧ ∀ r ∈ own, p.Points r) p.blocks found := by
    refine ((forall₂_and_left _ _).2 ⟨shape_of_blocks hbl,mapM_eq_ok.1 hf⟩).imp ?_
    rintro b own ⟨⟨type,name,conf,rfl⟩,ho⟩
    have hl : RuleKind.resource.locate (.dict [(type,.dict [(name,conf)])]) = .ok ([type,name],conf) := rfl
    have he : Entity.ofValue .resource (.dict [(type,.dict [(name,conf)])]) = .ok ⟨type,name,conf⟩ := rfl
    rw [hl,ok_bind] at ho
    obtain ⟨at_,hat,ho⟩ := bind_eq_ok.1 ho
    rw [he,ok_bind] at ho
    obtain ⟨⟨fs,after⟩,hfs,ho⟩ := bind_eq_ok.1 ho
    cases ho
    exact ⟨type,name,conf,rfl,found_of_place file hat hfs⟩
  refine ⟨fun r hr => ?_,found,rfl,ha.imp ?_⟩
  · obtain ⟨own,ho,hr⟩ := mem_flatten.1 hr
    obtain ⟨b,-,type,name,conf,-,-,hp⟩ := exists_left ha ho
    exact hp r hr
  · rintro b own ⟨type,name,conf,hb,ho,-⟩
    exact ⟨type,name,conf,hb,ho⟩

/-- A file whose blocks are those of the plan in it. -/
def IsRead (ws : Workspace) (p : PlanFile) : Prop := ∃ plan, read (Text.unifyLineEnds (((ws.file? p.path).map (·.text)).getD "")) =
  .ok (some plan) ∧ Plan.blocks plan = .ok p.blocks

end PlanFile

lemma mem_addAll {rep : Report} {r : Record} :
    r ∈ (rep.addAll rs).records ↔ r ∈ rep.records ∨ (r ∈ rs ∧ r.verdict ∈ [.passed,.failed,.skipped]) := by
  induction rs generalizing rep with
  | nil => simp [Report.addAll]
  | cons first rs ih =>
    have ha : r ∈ (rep.add first).records ↔ r ∈ rep.records ∨ (r = first ∧ r.verdict ∈ [.passed,.failed,.skipped]) := by
      rw [and_congr_right fun h : r = first => by rw [h]]
      cases hv : first.verdict <;> simp [Report.add,Report.records,hv] <;> tauto
    have hn : (rep.addAll (first::rs)) = (rep.add first).addAll rs := rfl
    rw [hn,ih,ha,mem_cons (a := r),or_and_right,or_assoc]

lemma exists_located {graph : Graph} {sel : Selection} {locate : Fields → Result (Option Located)} {rs : List Record}
    (h : policyRecords graph sel locate = .ok rs) {r : Record} (hr : r ∈ rs) : ∃ block l, locate block = .ok (some l) ∧
      r.absoluteFile = l.absoluteFile ∧ r.resource = some l.name ∧ r.lines = l.lines ∧ r.address = l.address := by
  rw [policyRecords] at h
  obtain ⟨rows,hrw,h⟩ := bind_eq_ok.1 h
  cases h
  obtain ⟨o,ho,rfl⟩ := mem_filterMap.1 hr
  obtain ⟨row,hro,hm⟩ := mem_flatten.1 ho
  obtain ⟨j,-,hj⟩ := exists_left (mapM_eq_ok.1 hrw) hro
  obtain ⟨⟨verdict,i⟩,-,hon⟩ := exists_left (mapM_eq_ok.1 hj) hm
  obtain ⟨found,hf,hon⟩ := bind_eq_ok.1 hon
  cases found with
  | none => cases hon
  | some l =>
    refine ⟨_,l,hf,?_⟩
    have hrc : ∃ block linked, r = l.record block linked j verdict := by
      dsimp only at hon
      split at hon
      · cases hon
        exact ⟨_,_,rfl⟩
      · obtain ⟨m,-,hon⟩ := bind_eq_ok.1 hon
        cases hon
        exact ⟨_,_,rfl⟩
    obtain ⟨block,linked,rfl⟩ := hrc
    simp only [Located.record,Record.withBreadcrumbs]
    split <;> exact ⟨rfl,rfl,rfl,rfl⟩

lemma scanPlans_points {ws : Workspace} {checks : List Check} {sel : Selection} {files errors : List String} {rep : Report}
    (h : scanPlans ws checks sel files errors = .ok rep) : ∃ plans : List PlanFile,
      (∀ p ∈ plans, p.path ∈ files ∧ p.IsRead ws) ∧ (∀ r ∈ rep.records, ∃ p ∈ plans, p.Points r) ∧
      ∀ p ∈ plans, ∃ rs, p.records ws checks sel = .ok rs ∧
        ∀ r ∈ rs, r.verdict ∈ [.passed,.failed,.skipped] → r ∈ rep.records := by
  rw [scanPlans] at h
  obtain ⟨all,hall,h⟩ := bind_eq_ok.1 h
  have hpl : ∀ p ∈ all.flatMap Prod.fst, p.path ∈ files ∧ p.IsRead ws := by
    intro p hp
    obtain ⟨x,hx,hp⟩ := mem_flatMap.1 hp
    obtain ⟨path,hpt,hst⟩ := exists_left (mapM_eq_ok.1 hall) hx
    dsimp only at hst
    split at hst
    · cases hst
      cases hp
    · cases hst
      cases hp
    · next plan hrd =>
      obtain ⟨bs,hbs,hst⟩ := bind_eq_ok.1 hst
      cases hst
      rw [mem_singleton.1 hp]
      exact ⟨hpt,plan,hrd,hbs⟩
  generalize all.flatMap Prod.fst = plans at hpl h
  obtain ⟨places,-,h⟩ := bind_eq_ok.1 h
  obtain ⟨graph,-,h⟩ := bind_eq_ok.1 h
  obtain ⟨records,hrc,h⟩ := bind_eq_ok.1 h
  have hpn : ∀ r ∈ records.flatten, ∃ p ∈ plans, p.Points r := by
    intro r hr
    obtain ⟨rs,hrs,hr⟩ := mem_flatten.1 hr
    obtain ⟨p,hp,hrd⟩ := exists_left (mapM_eq_ok.1 hrc) hrs
    obtain ⟨-,plan,-,hb⟩ := hpl p hp
    exact ⟨p,hp,(PlanFile.exists_found hb hrd).1 r hr⟩
  have hk : ∀ (r : Record) (es : List String),
      r ∈ ((({framework := "terraform_plan"} : Report).addAll records.flatten).addParsingErrors es).records ↔
        r ∈ records.flatten ∧ r.verdict ∈ [.passed,.failed,.skipped] :=
    fun r es => mem_addAll.trans (or_iff_right (by simp [Report.records]))
  have hm : (∀ r ∈ rep.records, ∃ p ∈ plans, p.Points r) ∧
      ∀ r ∈ records.flatten, r.verdict ∈ [.passed,.failed,.skipped] → r ∈ rep.records := by
    dsimp only at h
    split at h
    · cases h
      exact ⟨fun r hr => hpn r ((hk r _).1 hr).1,fun r hr hv => (hk r _).2 ⟨hr,hv⟩⟩
    · obtain ⟨judged,hj,h⟩ := bind_eq_ok.1 h
      cases h
      refine ⟨fun r hr => ?_,fun r hr hv => mem_addAll.2 (.inl ((hk r _).2 ⟨hr,hv⟩))⟩
      rcases mem_addAll.1 hr with hr | ⟨hr,-⟩
      · exact hpn r ((hk r _).1 hr).1
      · obtain ⟨block,l,hl,hf,hrr,hln,ha⟩ := exists_located hj hr
        split at hl
        · next p hp =>
          obtain ⟨at_,hat,hl⟩ := bind_eq_ok.1 hl
          obtain ⟨file,-,hl⟩ := bind_eq_ok.1 hl
          cases hl
          obtain ⟨type,name,home,hsp,hfr,hso⟩ := PlanFile.first_of_place hat
          refine ⟨p,mem_of_find?_eq_some hp,?_,type,name,home,?_,hfr,?_⟩
          · have hpt := List.find?_some hp
            exact hf.trans (eq_of_beq hpt).symm
          · rw [hrr,← Text.join_split (block.textAt _),hsp]
            simp [Text.join]
          · rw [hso,hln,ha]
        · cases hl
  refine ⟨plans,hpl,hm.1,fun p hp => ?_⟩
  obtain ⟨rs,hrs⟩ := exists_mapM_iff.1 ⟨records,hrc⟩ p hp
  refine ⟨rs,hrs,fun r hr => hm.2 r ?_⟩
  rw [← flatMap_id]
  exact (mem_flatMap_of_mapM hrc id r).2 ⟨p,hp,rs,hrs,hr⟩

/-- Every finding has the place of the first block of its file with its type and name. So those of a block are at its own
place just if that block is there too: not with several instances of a resource, or with its namesake in another module. -/
theorem findings_at_first_namesake {ws : Workspace} {checks : List Check} {sel : Selection} {p : PlanFile} {plan : Value}
    {rs : List Record} (hblocks : Plan.blocks plan = .ok p.blocks) (h : p.records ws checks sel = .ok rs) :
    (∀ r ∈ rs, p.Points r) ∧
      (∃ found : List (List Record), rs = found.flatten ∧ Forall₂ (fun b own => ∃ type name conf,
        b = .dict [(type,.dict [(name,conf)])] ∧ p.Found checks sel type name conf own) p.blocks found) ∧
      ∀ files errors rep, scanPlans ws checks sel files errors = .ok rep → ∃ plans : List PlanFile,
        (∀ q ∈ plans, q.path ∈ files ∧ q.IsRead ws) ∧ (∀ r ∈ rep.records, ∃ q ∈ plans, q.Points r) ∧
        ∀ q ∈ plans, ∃ rs, q.records ws checks sel = .ok rs ∧
          ∀ r ∈ rs, r.verdict ∈ [.passed,.failed,.skipped] → r ∈ rep.records := by
  obtain ⟨hpoints,hfound⟩ := PlanFile.exists_found hblocks h
  exact ⟨hpoints,hfound,fun _ _ _ hscan => scanPlans_points hscan⟩

def instanceAt (address : String) (line : Int) : Value :=
  .dict [("address",.str address),("mode","managed"),("type","queue"),("name","q"),
    ("values",.dict [(Template.startLine,.int line),(Template.stopLine,.int (line+2))])]

def countedPlan : Value := .dict [("planned_values",.dict [("root_module",.dict [("resources",
  .list [instanceAt "queue.q[0]" 4,instanceAt "queue.q[1]" 8])])])]

def countedFile : PlanFile := ⟨"/w/plan",[],(blocks countedPlan).toOption.getD []⟩

def alarm : Check := .of "ALARM" "" ["queue"] fun _ => return .failed

/-- Two instances of a queue, each with a finding. -/
theorem findings_at_first_namesake_counted : ∃ rs, countedFile.records ⟨"/w",[]⟩ [alarm] {} = .ok rs ∧
    (∀ r ∈ rs, countedFile.Points r) ∧
    rs.map (fun r => (r.lines,r.address)) = [(⟨3,5⟩,some "queue.q[0]"),(⟨3,5⟩,some "queue.q[0]")] ∧
    countedFile.blocks.map (fun b => spot? ((b.getD "queue").getD "q")) =
      [some (⟨3,5⟩,some "queue.q[0]"),some (⟨7,9⟩,some "queue.q[1]")] := by
  have hblocks : Plan.blocks countedPlan = .ok countedFile.blocks := by
    obtain ⟨bs,hbs⟩ : ∃ bs, Plan.blocks countedPlan = .ok bs := exists_of_isOk (by decide +kernel)
    show _ = Except.ok ((Plan.blocks countedPlan).toOption.getD [])
    rw [hbs]
    rfl
  have hplaces : ((countedFile.records ⟨"/w",[]⟩ [alarm] {}).toOption.map fun rs => rs.map fun r => (r.lines,r.address)) =
      some [(⟨3,5⟩,some "queue.q[0]"),(⟨3,5⟩,some "queue.q[0]")] := by decide +kernel
  obtain ⟨rs,hrs⟩ : ∃ rs, countedFile.records ⟨"/w",[]⟩ [alarm] {} = .ok rs := exists_of_isOk (by decide +kernel)
  rw [hrs] at hplaces
  exact ⟨rs,hrs,(findings_at_first_namesake hblocks hrs).1,Option.some.inj hplaces,by decide +kernel⟩

end InfraAudit.Terraform
