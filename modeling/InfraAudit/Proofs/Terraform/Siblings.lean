import InfraAudit.Terraform.Linking
import InfraAudit.Proofs.Success

/-!
The links of an attribute that holds texts are made whatever other attributes the block has, unless the name of one of them
starts with its own and has a number after a dot.
-/

namespace InfraAudit.Terraform.Configuration

open List InfraAudit.Graph Reference Fields

variable {blocks : Array Block} {mark change : Block → Block} {e : Edge} {extra : Fields} {i j : Nat}
  {f : String × Value} {c : Configuration} {vs : Array Block} {g : Graph}

lemma mem_between (h : e ∈ between origin dest label) : e = ⟨origin,dest,label⟩ := by
  unfold between at h
  split at h
  · cases h
  · exact mem_singleton.1 h

lemma mem_graph (h : c.graph blocks = .ok g) : ∃ vs, c.markModules blocks = .ok vs ∧
      (∀ i < vs.size, ∃ es, c.blockEdges vs (aliasesOf vs) i = .ok es) ∧
      ∀ e, e ∈ g.edges ↔ ∃ i < vs.size, ∃ es, c.blockEdges vs (aliasesOf vs) i = .ok es ∧ e ∈ es := by
  obtain ⟨vs,hvs,h⟩ := bind_eq_ok.1 h
  obtain ⟨ess,he,h⟩ := bind_eq_ok.1 h
  cases h
  refine ⟨vs,hvs,fun i hi => exists_mapM_iff.1 ⟨ess,he⟩ i (mem_range.2 hi),fun e => ?_⟩
  have hm := mem_flatMap_of_mapM he id e
  simpa [markEncryption] using hm

lemma exists_graph (hvs : c.markModules blocks = .ok vs)
    (h : ∀ i < vs.size, ∃ es, c.blockEdges vs (aliasesOf vs) i = .ok es) : ∃ g, c.graph blocks = .ok g := by
  obtain ⟨ess,he⟩ := exists_mapM_iff.2 fun i hi => h i (mem_range.1 hi)
  exact ⟨_,by rw [graph,hvs]; simp only [ok_bind,he]; rfl⟩

/-- Attributes that the linking reads by their names. -/
def readNames : List String := ["alias","source","version"]

/-- A block with those of its attributes that are read by name. -/
def face (b : Block) : Block := {b with attributes := b.attributes.filter fun f => readNames.contains f.1}

lemma lookup_face (h : name ∈ readNames) (b : Block) : (face b).attributes.lookup name = b.attributes.lookup name := by
  unfold face
  dsimp only
  induction b.attributes with
  | nil => rfl
  | cons f fs ih => grind [contains_iff_mem]

lemma callDestination_face (b : Block) : c.callDestination (face b) = c.callDestination b := by
  unfold callDestination firstOf get?
  rw [lookup_face (by decide),lookup_face (by decide)]
  rfl

lemma callersOf_face (dir : String) (trail : List String) :
    c.callersOf (vs.map face) dir trail = c.callersOf vs dir trail := by
  unfold callersOf
  simp only [Array.toList_map,zipIdx_map,foldlM_map,Prod.map_fst,Prod.map_snd,callDestination_face,id]
  rfl

lemma aliasesOf_face : aliasesOf (vs.map face) = aliasesOf vs := by
  unfold aliasesOf has get?
  simp only [Array.toList_map,foldl_map,lookup_face (show "alias" ∈ readNames by decide)]
  rfl

lemma getD_face (i : Nat) : (vs.map face).getD i default = face (vs.getD i default) := by
  simp only [Array.getD_eq_getD_getElem?,Array.getElem?_map]
  cases vs[i]? <;> rfl

lemma find?_face (kind name path dependency number : String) :
    c.find? (vs.map face) kind name path dependency number = c.find? vs kind name path dependency number := by
  unfold find? nearest
  simp only [getD_face,Array.toList_map,zipIdx_map,filterMap_map]
  rfl

lemma resolve_face (b : Block) (kind : String) (parts : List String) (n : Nat) :
    c.resolve (vs.map face) (face b) kind parts n = c.resolve vs b kind parts n := by
  induction n with
  | zero => rfl
  | succ n ih =>
    unfold resolve
    simp only [find?_face,ih]
    rfl

lemma outputEdges_face (origin module : Nat) (key : String) (parts : List String) :
    c.outputEdges (vs.map face) origin module key parts = c.outputEdges vs origin module key parts := by
  unfold outputEdges
  simp only [getD_face,callDestination_face,Array.toList_map,List.zipIdx_map,List.find?_map]
  cases c.callDestination (vs.getD module default) with
  | error f => rfl
  | ok dir =>
    rcases parts with _ | ⟨first,_ | ⟨name,rest⟩⟩
    · rfl
    · rfl
    · simp only [Function.comp_def,Prod.map_fst,face,Block.dependency]
      cases List.find? _ vs.toList.zipIdx <;> rfl

lemma referenceEdges_face (origin : Nat) (key : String) (r : Reference) :
    c.referenceEdges (vs.map face) origin key r = c.referenceEdges vs origin key r := by
  unfold referenceEdges
  simp only [getD_face,resolve_face,outputEdges_face]

lemma isOk_settingEdges_face (i : Nat) : (c.settingEdges (vs.map face) i).isOk = (c.settingEdges vs i).isOk := by
  have hk : (face (vs.getD i default)).kind = (vs.getD i default).kind := rfl
  unfold settingEdges
  rw [getD_face,hk]
  split
  · unfold callEdges get?
    dsimp only
    rw [getD_face,lookup_face (by decide),callDestination_face]
    split
    · rfl
    · cases Value.first (((vs.getD i default).attributes.lookup "source").getD .null) with
      | error f => rfl
      | ok source =>
        simp only [ok_bind]
        split
        · rfl
        · cases c.callDestination (vs.getD i default) <;> rfl
  · rfl
  · rfl

lemma dest_of_mem_argumentEdges (h : e ∈ argumentEdges declared i f) : e.dest = i := by
  unfold argumentEdges at h
  split at h
  · cases h
  · split at h
    · rw [mem_between h]
    · cases h

lemma dest_of_mem_callEdges (h : c.callEdges vs i = .ok es) (he : e ∈ es) : e.dest = i := by
  unfold callEdges at h
  dsimp only at h
  split at h
  · cases h
    cases he
  · obtain ⟨source,-,h⟩ := bind_eq_ok.1 h
    split at h
    · cases h
      cases he
    · obtain ⟨dir,-,h⟩ := bind_eq_ok.1 h
      cases h
      obtain ⟨f,-,hf⟩ := mem_flatMap.1 he
      exact dest_of_mem_argumentEdges hf

lemma dest_of_mem_valueEdges (h : e ∈ valueEdges vs i) : e.dest = i := by
  unfold valueEdges at h
  dsimp only at h
  split at h
  · rw [mem_between h]
  · cases h

lemma dest_of_mem_settingEdges (h : c.settingEdges vs i = .ok es) (he : e ∈ es) :
    e.dest = i ∧ (vs.getD i default).kind ∈ ["module","tfvar"] := by
  unfold settingEdges at h
  split at h
  · next hk => exact ⟨dest_of_mem_callEdges h he,by rw [hk]; decide⟩
  · next hk =>
    cases h
    exact ⟨dest_of_mem_valueEdges he,by rw [hk]; decide⟩
  · cases h
    cases he

def withMore (extra : Fields) (b : Block) : Block := {b with attributes := b.attributes ++ extra}

lemma face_withMore (h : ∀ f ∈ extra, f.1 ∉ readNames) (b : Block) : face (withMore extra b) = face b := by
  have hn : extra.filter (fun f => readNames.contains f.1) = [] := filter_eq_nil_iff.2 fun f hf => by simpa using h f hf
  unfold face withMore
  rw [filter_append,hn,append_nil]

lemma map_modify (change' : Block → Block) (h : ∀ b, mark (change b) = change' (mark b)) (vs : Array Block) (i : Nat) :
    (vs.modify i change).map mark = (vs.map mark).modify i change' := by
  apply Array.ext_getElem?
  intro j
  simp only [Array.getElem?_map,Array.getElem?_modify]
  split
  · cases vs[j]? with
    | none => rfl
    | some b => simp [h]
  · rfl

lemma map_face_modify (h : ∀ f ∈ extra, f.1 ∉ readNames) (vs : Array Block) (i : Nat) :
    (vs.modify i (withMore extra)).map face = vs.map face := by
  rw [map_modify id (face_withMore h)]
  exact Array.ext_getElem? fun j => by simp [Array.getElem?_modify]

lemma markModules_modify (h : ∀ f ∈ extra, f.1 ∉ readNames) (blocks : Array Block) (i : Nat) :
    c.markModules (blocks.modify i (withMore extra)) = (c.markModules blocks).map (·.modify i (withMore extra)) := by
  have hc : c.callersOf (blocks.modify i (withMore extra)) = c.callersOf blocks := by
    funext dir trail
    rw [← callersOf_face,map_face_modify h,callersOf_face]
  unfold markModules
  rw [hc]
  cases foldlM (m := Result) _ _ c.tree.trails with
  | error f => rfl
  | ok callers =>
    refine congrArg Except.ok (map_modify _ (fun b => ?_) blocks i)
    unfold mark
    dsimp only [withMore,Block.dependency,Block.dependencyNumber]
    split <;> rfl

lemma of_markModules (h : c.markModules blocks = .ok vs) : ∃ mark : Block → Block, vs = blocks.map mark ∧
      ∀ b, (mark b).kind = b.kind ∧ (mark b).name = b.name ∧ (mark b).attributes = b.attributes := by
  obtain ⟨callers,-,h⟩ := bind_eq_ok.1 h
  cases h
  refine ⟨_,rfl,fun b => ?_⟩
  unfold mark
  split <;> exact ⟨rfl,rfl,rfl⟩

section

variable (h : ∀ b, (mark b).kind = b.kind ∧ (mark b).name = b.name ∧ (mark b).attributes = b.attributes) (blocks : Array Block)

include h

lemma aliasesOf_map : aliasesOf (blocks.map mark) = aliasesOf blocks := by
  unfold aliasesOf
  simp only [Array.toList_map,foldl_map,h]

lemma getD_map (i : Nat) : ((blocks.map mark).getD i default).kind = (blocks.getD i default).kind ∧
      ((blocks.map mark).getD i default).attributes = (blocks.getD i default).attributes := by
  simp only [Array.getD_eq_getD_getElem?,Array.getElem?_map]
  cases blocks[i]? with
  | none => exact ⟨rfl,rfl⟩
  | some b => exact ⟨(h b).1,(h b).2.2⟩

end

lemma mem_referenceEdges
    (h : e ∈ c.referenceEdges vs origin key r) : e.origin = origin ∧ e.label = key := by
  unfold referenceEdges outputEdges at h
  dsimp only at h
  split at h
  · cases h
  · split at h
    · split at h
      · split at h
        · simp [mem_between h]
        · cases h
      · cases h
    · simp [mem_between h]

lemma mem_attributeEdges (h : c.attributeEdges vs aliases i f = .ok es) (he : e ∈ es) :
    hasNested f.1 (vs.getD i default).attributes = false ∧ e.origin = i ∧ e.label = f.1 := by
  unfold attributeEdges at h
  split at h
  · cases h
    cases he
  · next hs =>
    obtain ⟨rs,-,h⟩ := bind_eq_ok.1 h
    cases h
    obtain ⟨r,-,hr⟩ := mem_flatMap.1 he
    exact ⟨by simpa using (Bool.or_eq_false_iff.1 (Bool.eq_false_iff.2 hs)).2,mem_referenceEdges hr⟩

lemma blockEdges_eq_ok : c.blockEdges vs aliases i = .ok es ↔
    ∃ own rest, (vs.getD i default).attributes.mapM (c.attributeEdges vs aliases i) = .ok own ∧
      c.settingEdges vs i = .ok rest ∧ es = own.flatten ++ rest := by
  unfold blockEdges
  simp only [bind_eq_ok,pure_eq_ok,Except.ok.injEq]
  grind

lemma mem_edges_iff (hg : c.graph blocks = .ok g)
    (hvs : c.markModules blocks = .ok vs) (he : (vs.getD e.dest default).kind ∉ ["module","tfvar"]) :
    e ∈ g.edges ↔ e.origin < vs.size ∧ ∃ f ∈ (vs.getD e.origin default).attributes, f.1 = e.label ∧
      ∃ es, c.attributeEdges vs (aliasesOf vs) e.origin f = .ok es ∧ e ∈ es := by
  obtain ⟨vs',hvs',hok,hm⟩ := mem_graph hg
  obtain rfl : vs' = vs := Except.ok.inj (hvs'.symm.trans hvs)
  rw [hm]
  constructor
  · rintro ⟨i,hi,es,hes,he'⟩
    obtain ⟨own,rest,ho,hr,rfl⟩ := blockEdges_eq_ok.1 hes
    rcases mem_append.1 he' with he' | he'
    · obtain ⟨f,hf,fs,hfs,hef⟩ := (mem_flatMap_of_mapM ho id e).1 (by simpa using he')
      obtain ⟨-,rfl,hl⟩ := mem_attributeEdges hfs hef
      exact ⟨hi,f,hf,hl.symm,fs,hfs,hef⟩
    · obtain ⟨rfl,hk⟩ := dest_of_mem_settingEdges hr he'
      exact absurd hk he
  · rintro ⟨hi,f,hf,-,fs,hfs,hef⟩
    obtain ⟨es,hes⟩ := hok _ hi
    obtain ⟨own,rest,ho,hr,rfl⟩ := blockEdges_eq_ok.1 hes
    have hm' := (mem_flatMap_of_mapM ho id e).2 ⟨f,hf,fs,hfs,hef⟩
    exact ⟨_,hi,_,hes,mem_append_left _ (by simpa using hm')⟩

lemma hasNested_append (h : fs.lookup key = some (.list xs)) : hasNested key (fs ++ extra) = (hasNested key fs ||
      extra.any fun f => Text.startsWith f.1 key && f.1 != key && hasNumber f.1.toList) := by
  have ha : (fs ++ extra).lookup key = some (.list xs) := by rw [lookup_append,h]; rfl
  unfold hasNested get?
  rw [h,ha,any_append]
  simp [Value.isList,Value.isDict]

lemma hasNested_of_append (h : (fs.lookup key).isSome)
    (hn : hasNested key (fs ++ extra) = false) : hasNested key fs = false := by
  obtain ⟨v,hv⟩ := Option.isSome_iff_exists.1 h
  have ha : (fs ++ extra).lookup key = some v := by rw [lookup_append,hv]; rfl
  unfold hasNested get? at *
  rw [ha,any_append] at hn
  rw [hv]
  grind

section

variable {extra : Fields} {i : Nat}

lemma getD_modify_self (hi : i < vs.size) : (vs.modify i change).getD i default = change (vs.getD i default) := by
  simp [hi,Array.getElem_modify]

lemma getD_modify_ne (hj : i ≠ j) : (vs.modify i change).getD j default = vs.getD j default := by
  simp [Array.getElem?_modify,hj]

lemma kind_modify (j : Nat) : ((vs.modify i (withMore extra)).getD j default).kind = (vs.getD j default).kind := by
  simp only [Array.getD_eq_getD_getElem?,Array.getElem?_modify]
  split
  · cases vs[j]? <;> rfl
  · rfl

lemma exists_blockEdges_iff : (∃ es, c.blockEdges vs aliases j = .ok es) ↔
    (∀ f ∈ (vs.getD j default).attributes, ∃ es, c.attributeEdges vs aliases j f = .ok es) ∧
      ∃ es, c.settingEdges vs j = .ok es := by
  rw [← exists_mapM_iff]
  simp only [blockEdges_eq_ok]
  grind

variable (hn : ∀ f ∈ extra, f.1 ∉ readNames)

include hn

lemma referenceEdges_modify (origin : Nat) (key : String) (r : Reference) :
    c.referenceEdges (vs.modify i (withMore extra)) origin key r = c.referenceEdges vs origin key r := by
  rw [← referenceEdges_face,map_face_modify hn,referenceEdges_face]

lemma aliasesOf_modify : aliasesOf (vs.modify i (withMore extra)) = aliasesOf vs := by
  rw [← aliasesOf_face,map_face_modify hn,aliasesOf_face]

lemma attributeEdges_modify
    (h : hasNested f.1 ((vs.modify i (withMore extra)).getD j default).attributes = hasNested f.1 (vs.getD j default).attributes) :
    c.attributeEdges (vs.modify i (withMore extra)) aliases j f = c.attributeEdges vs aliases j f := by
  unfold attributeEdges
  rw [h]
  simp only [funext (referenceEdges_modify (c := c) hn j f.1)]

lemma exists_settingEdges_modify
    (h : ∃ es, c.settingEdges vs j = .ok es) : ∃ es, c.settingEdges (vs.modify i (withMore extra)) j = .ok es := by
  obtain ⟨es,hes⟩ := h
  refine exists_of_isOk ?_
  rw [← isOk_settingEdges_face,map_face_modify hn,isOk_settingEdges_face,hes,isOk_ok]

lemma exists_attributeEdges_modify (hi : i < vs.size)
    (hf : f ∈ (vs.getD i default).attributes) (h : ∃ es, c.attributeEdges vs aliases i f = .ok es) :
    ∃ es, c.attributeEdges (vs.modify i (withMore extra)) aliases i f = .ok es := by
  by_cases hns : hasNested f.1 ((vs.modify i (withMore extra)).getD i default).attributes
  · refine ⟨[],?_⟩
    rw [attributeEdges,hns,Bool.or_true,if_pos rfl]
    rfl
  · rw [attributeEdges_modify hn]
    · exact h
    · rw [getD_modify_self hi] at hns ⊢
      have hnn : hasNested f.1 (withMore extra (vs.getD i default)).attributes = false := by simpa using hns
      rw [hnn,hasNested_of_append (isSome_lookup hf) hnn]

lemma exists_blockEdges_modify
    (hr : ∀ f ∈ extra, ∃ rs, inValue aliases c.resourceTypes f.2 = .ok rs) (hi : i < vs.size)
    (h : ∃ es, c.blockEdges vs aliases j = .ok es) :
    ∃ es, c.blockEdges (vs.modify i (withMore extra)) aliases j = .ok es := by
  obtain ⟨ho,hs⟩ := exists_blockEdges_iff.1 h
  refine exists_blockEdges_iff.2 ⟨fun f hf => ?_,exists_settingEdges_modify hn hs⟩
  by_cases hj : i = j
  · subst hj
    have hf' := hf
    rw [getD_modify_self hi] at hf'
    rcases mem_append.1 hf' with hold | hnw
    · exact exists_attributeEdges_modify hn hi hold (ho f hold)
    · obtain ⟨rs,hrs⟩ := hr f hnw
      unfold attributeEdges
      rw [hrs]
      split <;> exact ⟨_,rfl⟩
  · rw [getD_modify_ne hj] at hf
    rw [attributeEdges_modify hn (by rw [getD_modify_ne hj])]
    exact ho f hf

end

/-- Among attributes added to a block, those whose name starts with the name of a list and has a number after a dot take all
links of the list away, whether or not they are parts of it; others take none. Only variables link to module calls and
variable files, which the list has no part in. -/
theorem link_kept_iff_no_numbered_sibling {blocks : Array Block} {i : Nat} {k : String} {xs : List Value} {extra : Fields}
    {g : Graph} (hi : i < blocks.size) (hk : (blocks.getD i default).attributes.lookup k = some (.list xs))
    (hnames : ∀ f ∈ extra, f.1 ∉ readNames ∧ (blocks.getD i default).attributes.lookup f.1 = none)
    (hread : ∀ f ∈ extra, ∃ rs, inValue (aliasesOf blocks) c.resourceTypes f.2 = .ok rs) (hg : c.graph blocks = .ok g) :
    ∃ g', c.graph (blocks.modify i (withMore extra)) = .ok g' ∧
      ∀ e ∈ g.edges, e.origin = i → e.label = k → (blocks.getD e.dest default).kind ∉ ["module","tfvar"] →
        (e ∈ g'.edges ↔ ∀ f ∈ extra, Text.startsWith f.1 k = true → hasNumber f.1.toList = false) := by
  have hunread : ∀ f ∈ extra, f.1 ∉ readNames := fun f hf => (hnames f hf).1
  obtain ⟨vs,hvs,hok,-⟩ := mem_graph hg
  obtain ⟨mark,rfl,hmark⟩ := of_markModules hvs
  have hsize : i < (blocks.map mark).size := by simpa using hi
  have hvs' : c.markModules (blocks.modify i (withMore extra)) = .ok ((blocks.map mark).modify i (withMore extra)) := by
    rw [markModules_modify hunread,hvs]
    rfl
  obtain ⟨g',hg'⟩ := exists_graph hvs' fun j hj => by
    rw [aliasesOf_modify hunread]
    rw [aliasesOf_map hmark] at hok ⊢
    exact exists_blockEdges_modify hunread hread hsize (hok j (by simpa using hj))
  refine ⟨g',hg',fun e he horigin hlabel hkind => ?_⟩
  rw [← (getD_map hmark blocks _).1] at hkind
  rw [← (getD_map hmark blocks _).2] at hk
  have hkind' := @kind_modify (blocks.map mark) extra i e.dest ▸ hkind
  obtain ⟨-,f,hf,hfk,es,hes,hmem⟩ := (mem_edges_iff hg hvs hkind).1 he
  rw [mem_edges_iff hg' hvs' hkind']
  subst horigin
  subst hlabel
  have hbefore := (mem_attributeEdges hes hmem).1
  rw [hfk] at hbefore
  have hnested : hasNested e.label (withMore extra ((blocks.map mark).getD e.origin default)).attributes = _ :=
    hasNested_append hk
  rw [hbefore,Bool.false_or] at hnested
  have hother : ∀ f ∈ extra, f.1 ≠ e.label := by
    intro f' hf' heq
    rw [(getD_map hmark blocks _).2,← heq,(hnames f' hf').2] at hk
    cases hk
  constructor
  · rintro ⟨-,f',-,hfk',es',hes',hmem'⟩ x hx hstart
    have hnone := (mem_attributeEdges hes' hmem').1
    rw [getD_modify_self hsize,hfk'] at hnone
    have hany := hnested.symm.trans hnone
    simpa [hstart,hother x hx] using any_eq_false.1 hany x hx
  · intro hnumbers
    have hnone : hasNested e.label (withMore extra ((blocks.map mark).getD e.origin default)).attributes = false := by
      refine hnested.trans (any_eq_false.2 fun x hx => ?_)
      simpa using fun hstart _ => hnumbers x hx hstart
    refine ⟨by simpa using hi,f,?_,hfk,es,?_,hmem⟩
    · rw [getD_modify_self hsize]
      exact mem_append_left _ hf
    · rw [aliasesOf_modify hunread,attributeEdges_modify hunread,hes]
      rw [getD_modify_self hsize,hfk,hnone,hbefore]

def named (kind name : String) (attributes : Fields) : Block := {(default : Block) with kind, name, attributes}

def web : Array Block := #[named "resource" "aws_lb.web" [("name",.list ["$\x7bvar.a\x7d"])],named "variable" "a" []]

def nameExtra : Fields :=
  [("name_extra",.list [.dict [("x","y")]]),("name_extra.0",.dict [("x","y")]),("name_extra.0.x","y")]

theorem link_kept_iff_no_numbered_sibling_web : ∃ g g', (default : Configuration).graph web = .ok g ∧
      (default : Configuration).graph (web.modify 0 (withMore nameExtra)) = .ok g' ∧
      ⟨0,1,"name"⟩ ∈ g.edges ∧ ⟨0,1,"name"⟩ ∉ g'.edges := by
  have hedges : ((default : Configuration).graph web).toOption.map (·.edges) = some [⟨0,1,"name"⟩] := by decide +kernel
  have hread : ∀ f ∈ nameExtra, (inValue (aliasesOf web) [] f.2).toOption = some [] := by decide +kernel
  cases hg : (default : Configuration).graph web with
  | error f => rw [hg] at hedges; cases hedges
  | ok g =>
    have hone : g.edges = [⟨0,1,"name"⟩] := by
      rw [hg] at hedges
      exact Option.some.inj hedges
    have hmem : ⟨0,1,"name"⟩ ∈ g.edges := by simp [hone]
    obtain ⟨g',hg',hkept⟩ := @link_kept_iff_no_numbered_sibling default web 0 "name" _ nameExtra _ (by decide) rfl (by decide)
      (fun f hf => ⟨_,eq_ok_of_toOption (hread f hf)⟩) hg
    refine ⟨g,g',rfl,hg',hmem,fun hmem' => ?_⟩
    have hnone := (hkept _ hmem rfl rfl (by decide)).1 hmem' ("name_extra.0",.dict [("x",.str "y")]) (by simp [nameExtra])
    exact absurd (hnone (by decide +kernel)) (by decide)

end InfraAudit.Terraform.Configuration
