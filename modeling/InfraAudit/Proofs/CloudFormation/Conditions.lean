import InfraAudit.CloudFormation.Rendering
import InfraAudit.Proofs.Graph.AttributeView

/-!
What the conditions of a template evaluate to. The condition of a name is read from the attributes of its block, in which a list
of one item has given way to the item, and all that is nested in it is read as it is written. So a negation, which is written
with such a list, has a value at the top of a condition only. Names are followed without end, and from one template to another.
-/

set_option autoImplicit false

namespace InfraAudit.CloudFormation

open List Section Fields InfraAudit.Graph

def lined (lines : Int × Int) (key : String) (v : Value) : Value :=
  .dict [(key,v),(Template.startLine,.int lines.1),(Template.stopLine,.int lines.2)]

/-- A condition as it is written, with the lines of each of its parts. -/
inductive Formula where
  | equals (lines : Int × Int) (a b : String)
  | named (lines : Int × Int) (name : String)
  | negation (lines : Int × Int) (x : Formula)
  | joined (lines : Int × Int) (conj : Bool) (x y : Formula)

namespace Formula

def key : Formula → String
  | equals .. => "Fn::Equals"
  | named .. => "Condition"
  | negation .. => "Fn::Not"
  | joined _ conj _ _ => if conj then "Fn::And" else "Fn::Or"

def value : Formula → Value
  | equals l a b => lined l "Fn::Equals" (.list [.str a,.str b])
  | named l n => lined l "Condition" (.str n)
  | negation l x => lined l "Fn::Not" (.list [x.value])
  | joined l conj x y => lined l (if conj then "Fn::And" else "Fn::Or") (.list [x.value,y.value])

def argument : Formula → Value
  | equals _ a b => .list [.str a,.str b]
  | named _ n => .str n
  | negation _ x => .list [x.value]
  | joined _ _ x y => .list [x.value,y.value]

def holds (val : String → Bool) : Formula → Bool
  | equals _ a b => a == b
  | named _ n => val n
  | negation _ x => !x.holds val
  | joined _ conj x y => if conj then x.holds val && y.holds val else x.holds val || y.holds val

def names : Formula → List String
  | equals .. => []
  | named _ n => [n]
  | negation _ x => x.names
  | joined _ _ x y => x.names ++ y.names

/-- Without negations. -/
def isPositive : Formula → Bool
  | equals .. | named .. => true
  | negation .. => false
  | joined _ _ x y => x.isPositive && y.isPositive

def isLegible : Formula → Bool
  | negation _ x => x.isPositive
  | x => x.isPositive

end Formula

abbrev Definitions := List (String × Formula)

/-- The name and all that it leads to have legible definitions, and none leads back to itself. -/
inductive Grounded (defs : Definitions) : String → Prop
  | intro {n : String} {x : Formula} (hx : defs.lookup n = some x) (hlegible : x.isLegible)
      (hne : ∀ m ∈ x.names, m ≠ "") (hnames : ∀ m ∈ x.names, Grounded defs m) : Grounded defs n

variable {defs : Definitions} {val : String → Bool} {g : Graph} {key : String} {v : Value} {fs : Fields}

/-- The value that there is from some depth on. -/
def Settles (f : Nat → Result (Option Bool)) (b : Bool) : Prop := ∃ d, ∀ n, f (n+d) = .ok (some b)

namespace Settles

variable {f f' : Nat → Result (Option Bool)} {b b' : Bool}

lemma after {d : Nat} (h : Settles f b) (hf : ∀ n, f' (n+d) = f n) : Settles f' b := by
  obtain ⟨e,he⟩ := h
  refine ⟨e+d,fun n => ?_⟩
  rw [← Nat.add_assoc,hf,he]

lemma both (h : Settles f b) (h' : Settles f' b') (op : Bool → Bool → Bool) :
    Settles (fun n => do return CloudFormation.both op (← f n) (← f' n)) (op b b') := by
  obtain ⟨d,hd⟩ := h
  obtain ⟨d',hd'⟩ := h'
  refine ⟨d+d',fun n => ?_⟩
  show (do return CloudFormation.both op (← f (n+(d+d'))) (← f' (n+(d+d'))) : Result _) = _
  rw [← Nat.add_assoc,hd',Nat.add_right_comm,hd]
  rfl

lemma opposite (h : Settles f b) : Settles (fun n => do return (← f n).map (!·)) (!b) := by
  obtain ⟨d,hd⟩ := h
  refine ⟨d,fun n => ?_⟩
  show (do return (← f (n+d)).map (!·) : Result _) = _
  rw [hd]
  rfl

end Settles

/-- A call whose argument is not empty comes to the same nested in a condition. -/
lemma Settles.nested {b : Bool} (h : Settles (condition g · key v) b) (hkey : key ∈ conditionKeys) (hv : v.truthy)
    (lines : Int × Int) : Settles (conditionIn g · (lined lines key v)) b := by
  refine h.after (d := 1) fun n => ?_
  simp only [conditionKeys,mem_cons,not_mem_nil,or_false] at hkey
  rcases hkey with rfl | rfl | rfl | rfl | rfl <;> exact if_pos hv

namespace Formula

lemma key_mem (x : Formula) : x.key ∈ conditionKeys := by
  cases x with
  | joined l conj x y => cases conj <;> simp [key,conditionKeys]
  | _ => simp [key,conditionKeys]

/-- By the structure of the formula, whose names are evaluated as they should be. -/
lemma settles {x : Formula} (hx : x.isPositive)
    (hnames : ∀ m ∈ x.names, m ≠ "" ∧ Settles (condition g · "Condition" (.str m)) (val m)) :
    Settles (condition g · x.key x.argument) (x.holds val) ∧ Settles (conditionIn g · x.value) (x.holds val) := by
  induction x with
  | equals l a b =>
    have h : Settles (condition g · "Fn::Equals" (.list [.str a,.str b])) (a == b) := ⟨1,fun _ => rfl⟩
    exact ⟨h,h.nested (by decide) rfl l⟩
  | named l n =>
    obtain ⟨hne,h⟩ := hnames n (mem_singleton_self n)
    exact ⟨h,h.nested (by decide) (by simpa [Value.truthy] using hne) l⟩
  | negation l x => cases hx
  | joined l conj x y ihx ihy =>
    obtain ⟨hpx,hpy⟩ := Bool.and_eq_true_iff.1 hx
    obtain ⟨hnx,hny⟩ := forall_mem_append.1 hnames
    have h : Settles (condition g · (joined l conj x y).key (joined l conj x y).argument) ((joined l conj x y).holds val) := by
      cases conj with
      | false => exact ((ihx hpx hnx).2.both (ihy hpy hny).2 or).after (d := 1) fun _ => rfl
      | true => exact ((ihx hpx hnx).2.both (ihy hpy hny).2 and).after (d := 1) fun _ => rfl
    exact ⟨h,h.nested (key_mem _) rfl l⟩

end Formula

/-- The attributes show the one key of a condition, and under it the item of a list of one item. -/
def Shows (fs : Fields) (key : String) (v : Value) : Prop :=
  ∀ q ∈ conditionKeys, fs.lookup q = if q = key then some v.unwrapped else none

lemma conditionOf_shows (hkey : key ∈ conditionKeys) (hfs : Shows fs key v) (n : Nat) :
    conditionOf g (n+1) fs = condition g n key v.unwrapped := by
  simp only [Shows,conditionKeys,mem_cons,not_mem_nil,or_false] at hkey hfs
  rcases hkey with rfl | rfl | rfl | rfl | rfl <;> simp [conditionOf,conditionKeys,has,get?,hfs]

lemma Formula.settles_top {x : Formula} (hx : x.isLegible)
    (hnames : ∀ m ∈ x.names, m ≠ "" ∧ Settles (condition g · "Condition" (.str m)) (val m))
    (hfs : Shows fs x.key x.argument) : Settles (conditionOf g · fs) (x.holds val) := by
  have hof := conditionOf_shows (g := g) x.key_mem hfs
  cases x with
  | negation l x => exact (settles hx hnames).2.opposite.after (d := 2) fun n => hof (n+1)
  | equals | named | joined => exact (settles hx hnames).1.after (d := 1) hof

/-- By the names that the name leads to. -/
lemma settles_of_grounded (hg : ∀ n x, defs.lookup n = some x →
      ∃ fs, attributesOf g conditions.kind (.str n) = .ok (some fs) ∧ Shows fs x.key x.argument)
    (hval : ∀ n x, defs.lookup n = some x → val n = x.holds val) {n : String} (hn : Grounded defs n) :
    Settles (condition g · "Condition" (.str n)) (val n) := by
  induction hn with
  | @intro n x hx hlegible hne hnames ih =>
    obtain ⟨fs,hfs,hshows⟩ := hg n x hx
    have hof := Formula.settles_top hlegible (fun m hm => ⟨hne m hm,ih m hm⟩) hshows
    rw [hval n x hx]
    refine hof.after (d := 1) fun k => ?_
    simp only [condition,hfs]
    rfl

lemma of_mem_conditionKeys (hkey : key ∈ conditionKeys) : key ≠ "" ∧ Text.Undotted key ∧ key ∉ ["self","self_"] ∧
    key ∉ [Template.startLine,Template.stopLine] ∧
    key ∉ ["block_name_","block_type_","file_path_","config_","label_","id_","source_"] := by
  simp only [conditionKeys,mem_cons,not_mem_nil,or_false] at hkey
  rcases hkey with rfl | rfl | rfl | rfl | rfl <;> simp [Text.Undotted,Template.startLine,Template.stopLine]

lemma plain_str (s : String) : Plain (.str s) := ⟨by simp,by simp,by simp [children]⟩

lemma plain_int (n : Int) : Plain (.int n) := ⟨by simp,by simp,by simp [children]⟩

lemma plain_list {xs : List Value} (h : ∀ x ∈ xs, Plain x) : Plain (.list xs) := by
  refine ⟨by simp,by simp,forall_mem_map.2 fun x hx => ?_⟩
  exact h _ (fst_mem_of_mem_zipIdx hx)

lemma nodup_lined (hkey : key ∈ conditionKeys) (lines : Int × Int) (v : Value) : (keys (lined lines key v).fields).Nodup := by
  obtain ⟨-,-,-,hlines,-⟩ := of_mem_conditionKeys hkey
  simpa [lined,Value.fields,Fields.keys,Template.startLine,Template.stopLine] using hlines

lemma plain_lined (hkey : key ∈ conditionKeys) (hv : Plain v) (lines : Int × Int) :
    (∀ f ∈ (lined lines key v).fields, Plain f.2) ∧ Plain (lined lines key v) := by
  have hfields : ∀ f ∈ (lined lines key v).fields, Plain f.2 := by
    simp [lined,Value.fields,hv,plain_int]
  obtain ⟨hne,hdot,-⟩ := of_mem_conditionKeys hkey
  rw [Text.Undotted] at hdot
  refine ⟨hfields,by simp [lined],?_,forall_mem_map.2 hfields⟩
  rintro fs hfs
  cases hfs
  refine ⟨nodup_lined hkey lines v,?_⟩
  simp [Fields.keys,hne,hdot,Text.Undotted,Template.startLine,Template.stopLine]

namespace Formula

lemma exists_value_eq (x : Formula) : ∃ lines, x.value = lined lines x.key x.argument := by
  cases x <;> exact ⟨_,rfl⟩

lemma plain_argument (x : Formula) : Plain x.argument := by
  have hvalue {x : Formula} (h : Plain x.argument) : Plain x.value := by
    obtain ⟨lines,hlines⟩ := x.exists_value_eq
    exact hlines ▸ (plain_lined x.key_mem h lines).2
  induction x with
  | equals l a b => exact plain_list (by simp [plain_str])
  | named l n => exact plain_str n
  | negation l x ih => exact plain_list (by simp [hvalue ih])
  | joined l conj x y ihx ihy => exact plain_list (by simp [hvalue ihx,hvalue ihy])

lemma shows_plainBlock (x : Formula) (source path name : String) :
    Shows ((plainBlock source path conditions name x.value).attributeView false) x.key x.argument := by
  intro q hq
  obtain ⟨lines,hlines⟩ := x.exists_value_eq
  obtain ⟨-,hdot,hself,hmarks,hbase⟩ := of_mem_conditionKeys hq
  have hkind : conditions.kind ≠ "data" := by decide
  rw [hlines,plainBlock,Block.lookup_attributeView rfl rfl hkind (nodup_lined x.key_mem lines _)
    (plain_lined x.key_mem x.plain_argument lines).1 hdot hself hbase]
  simp only [mem_cons,not_mem_nil,not_or,or_false] at hmarks
  by_cases h : q = x.key <;> simp [lined,Value.fields,Fields.lookup_cons,h,hmarks]

end Formula

lemma kind_of_mem_sectionBlocks {source path : String} {root : Value} {part : Section} {b : Section × String × Block}
    (hb : b ∈ sectionBlocks source path root part) : b.2.2.kind = part.kind := by
  obtain ⟨⟨name,v⟩,-,hb⟩ := mem_filterMap.1 hb
  cases hd : v.isDict with
  | false => simp [hd] at hb
  | true =>
    simp only [hd,Bool.not_true,Bool.false_eq_true,if_false,Option.some.injEq] at hb
    rw [← hb]
    cases part <;> rfl

/-- The blocks of the kind are those of the section, in the order in which they are written. -/
lemma conditions_blocksOf (source : String) (t : TemplateFile) :
    (blocksOf source [t]).1.vertices.toList.filter (·.kind == conditions.kind) =
      ((t.value.getD conditions.title).fields.filter (·.2.isDict)).map fun f =>
        plainBlock source t.path conditions f.1 f.2 := by
  have hsections (part : Section) : (sectionBlocks source t.path t.value part).filter (·.2.2.kind == conditions.kind) =
      if part.kind = conditions.kind then sectionBlocks source t.path t.value part else [] := by
    split
    · next h => exact filter_eq_self.2 fun b hb => by simp [kind_of_mem_sectionBlocks hb,h]
    · next h => exact filter_eq_nil_iff.2 fun b hb => by simp [kind_of_mem_sectionBlocks hb,h]
  have hdict : (sectionBlocks source t.path t.value conditions).map (·.2.2) =
      ((t.value.getD conditions.title).fields.filter (·.2.isDict)).map fun f =>
        plainBlock source t.path conditions f.1 f.2 := by
    rw [sectionBlocks,map_filterMap,← filterMap_eq_map,filterMap_filter]
    refine filterMap_congr fun f _ => ?_
    cases hd : f.2.isDict <;> simp [hd]
  have hkinds : Section.all.map (decide <| ·.kind = conditions.kind) = [false,false,false,true,false,false] := by decide
  simp only [Section.all,map_cons,map_nil,cons.injEq,decide_eq_false_iff_not,decide_eq_true_eq] at hkinds
  rw [← hdict]
  simp [blocksOf,addTemplate,filter_map,Function.comp_def,Section.all,hsections,hkinds]

lemma find?_plainBlock {n : String} (h : fs.lookup n = some v) (source path : String) :
    (fs.map fun f => plainBlock source path conditions f.1 f.2).find? (fun b => Value.str n == .str b.name) =
      some (plainBlock source path conditions n v) := by
  induction fs with
  | nil => cases h
  | cons f fs ih =>
    rw [map_cons,find?_cons,show (plainBlock source path conditions f.1 f.2).name = f.1 from rfl,Value.beq_str]
    by_cases hn : n = f.1
    · simp_all [lookup]
    · simp_all [lookup,beq_false_of_ne hn]

lemma attributesOf_blocksOf {t : TemplateFile} {n : String} {v : Value}
    (hv : ((t.value.getD conditions.title).fields.filter (·.2.isDict)).lookup n = some v) (source : String) :
    attributesOf (blocksOf source [t]).1 conditions.kind (.str n) =
      .ok (some ((plainBlock source t.path conditions n v).attributeView false)) := by
  have hfind := find?_plainBlock hv source t.path
  rw [← conditions_blocksOf,find?_filter,Array.find?_toList] at hfind
  simp only [Bool.decide_and,Bool.decide_eq_true] at hfind
  have hany : (blocksOf source [t]).1.vertices.any (·.kind == conditions.kind) := by
    have hb := Array.find?_some hfind
    exact Array.any_eq_true'.2 ⟨_,Array.mem_of_find?_eq_some hfind,(Bool.and_eq_true_iff.1 hb).1⟩
  rw [attributesOf,hany,hfind]
  rfl

/-- What a condition evaluates to by its name, if its definition and those of all names that it leads to are such as are read:
its value, for the assignment of values that agrees with the definitions. -/
theorem condition_by_name {t : TemplateFile} {defs : Definitions}
    (hdefs : ∀ n x, defs.lookup n = some x →
      ((t.value.getD conditions.title).fields.filter (·.2.isDict)).lookup n = some x.value)
    {val : String → Bool} (hval : ∀ n x, defs.lookup n = some x → val n = x.holds val)
    {n : String} (hn : Grounded defs n) (source : String) :
    ∃ depth, ∀ k, condition (blocksOf source [t]).1 (k+depth) "Condition" (.str n) = .ok (some (val n)) := by
  refine settles_of_grounded (fun n x hx => ?_) hval hn
  exact ⟨_,attributesOf_blocksOf (hdefs n x hx) source,x.shows_plainBlock source t.path n⟩

def stages : Definitions := [
  ("Prod",.equals (3,3) "prod" "prod"),
  ("Test",.negation (4,6) (.named (5,5) "Prod")),
  ("Logged",.joined (7,10) false (.named (8,8) "Test") (.equals (9,9) "yes" "yes"))]

def withConditions (conditions : Fields) : TemplateFile :=
  {path := "", lines := [], root := .plain (.dict [("Conditions",.dict conditions)])}

def staged : TemplateFile := withConditions (stages.map fun d => (d.1,d.2.value))

theorem condition_by_name_staged :
    ∃ depth, ∀ k, condition (blocksOf "" [staged]).1 (k+depth) "Condition" "Logged" = .ok (some true) := by
  have hdefs : ∀ d ∈ stages, ((staged.value.getD conditions.title).fields.filter (·.2.isDict)).lookup d.1 = some d.2.value :=
    forall_mem_cons.2 ⟨rfl,forall_mem_cons.2 ⟨rfl,forall_mem_singleton.2 rfl⟩⟩
  have hval : ∀ n x, stages.lookup n = some x → (n != "Test") = x.holds (· != "Test") := by
    have hall : ∀ d ∈ stages, (d.1 != "Test") = d.2.holds (· != "Test") := by decide +kernel
    exact fun n x hx => hall (n,x) (mem_of_lookup hx)
  have hprod : Grounded stages "Prod" := ⟨rfl,rfl,by simp [Formula.names],by simp [Formula.names]⟩
  have htest : Grounded stages "Test" := ⟨rfl,rfl,by simp [Formula.names],by simp [Formula.names,hprod]⟩
  have hlogged : Grounded stages "Logged" := ⟨rfl,rfl,by simp [Formula.names],by simp [Formula.names,htest]⟩
  exact condition_by_name (fun n x hx => hdefs (n,x) (mem_of_lookup hx)) hval hlogged ""

/-- A conjunction of three, and one of a test and a negation: both hold and have no value. -/
theorem conjunctions_without_value : [
      [Formula.equals (3,3) "a" "a",.equals (4,4) "a" "a",.equals (5,5) "a" "a"],
      [.equals (3,3) "a" "a",.negation (4,4) (.equals (4,4) "a" "b")]].map (fun xs =>
        (xs.all (·.holds fun _ => false),condition (blocksOf "" [withConditions
          [("A",lined (2,6) "Fn::And" (.list (xs.map (·.value))))]]).1 deepestCondition "Condition" "A")) =
    [(true,.ok none),(true,.ok none)] := by with_unfolding_all rfl

/-- The call that the evaluation of a call makes first. -/
inductive Leads (g : Graph) : String × Value → String × Value → Prop
  | name {v : Value} {k : String} (fs : Fields) : attributesOf g conditions.kind v = .ok (some fs) →
    conditionKeys.find? (Fields.has fs) = some k → Leads g ("Condition",v) (k,(Fields.get? fs k).getD .null)
  | operand {key k : String} {v : Value} (a : Value) :
    (key = "Fn::Not" ∧ v = a ∨ (key = "Fn::And" ∨ key = "Fn::Or") ∧ ∃ b, v = .list [a,b]) →
    conditionKeys.find? a.hasKey = some k → (a.getD k).truthy → Leads g (key,v) (k,a.getD k)

variable {c d : String × Value} {n : Nat}

lemma condition_of_leads (hl : Leads g c d) (hd : ∀ m < n, condition g m d.1 d.2 = .error .tooDeep) :
    condition g n c.1 c.2 = .error .tooDeep := by
  cases n with
  | zero => rw [condition]
  | succ n =>
    cases hl with
    | name fs hf hk =>
      simp only [condition,hf]
      cases n with
      | zero => rfl
      | succ n => simpa [conditionOf,hk,bind,Except.bind] using hd n (by omega)
    | operand a hv hk ht =>
      have hc : conditionIn g n a = .error .tooDeep := by
        cases n with
        | zero => rw [conditionIn]
        | succ n =>
          rw [conditionIn,hk]
          simpa [ht] using hd n (by omega)
      obtain ⟨rfl,rfl⟩ | ⟨rfl | rfl,b,rfl⟩ := hv <;> simp [condition,hc,bind,Except.bind]

/-- Where calls lead to calls without end, no depth is enough. -/
theorem condition_circular {f : Nat → String × Value} (hf : ∀ i, Leads g (f i) (f (i+1))) (n i : Nat) :
    condition g n (f i).1 (f i).2 = .error .tooDeep := by
  induction n using Nat.strongRecOn generalizing i with
  | _ n ih => exact condition_of_leads (hf i) fun m hm => ih m hm (i+1)

def circle : Graph := (blocksOf "" [withConditions [("A",.dict [("Condition","A")])]]).1

theorem condition_circular_name : condition circle deepestCondition "Condition" (.str "A") = .error .tooDeep :=
  have hl : Leads circle ("Condition",.str "A") ("Condition",.str "A") :=
    .name ((circle.vertices.getD 0 default).attributeView false) (by with_unfolding_all rfl) rfl
  condition_circular (fun _ => hl) deepestCondition 0

def templateWith (path word : String) (resource : Fields) : TemplateFile :=
  {path, lines := [], root := .plain (.dict [
    ("Conditions",.dict [("A",.dict [("Fn::Equals",.list ["a",.str word])])]),("Resources",.dict [("R",.dict resource)])])}

def topicFile : TemplateFile := templateWith "/a.json" "a" [("Type","AWS::SNS::Topic")]

def bucketFile : TemplateFile := templateWith "/b.json" "b" [("Type","AWS::S3::Bucket"),
  ("Properties",.dict [("BucketName",.dict [("Fn::If",.list ["A","yes","no"])])])]

def bucketNames (ts : List TemplateFile) : Option (List (Option String)) :=
  (graphOf ts true).toOption.map fun g => g.vertices.toList.filterMap fun b => (b.attributes.lookup "BucketName").map Value.text?

/-- Beside a template with a condition of the same name, a bucket gets the name that the other condition gives it. -/
theorem rendering_takes_condition_of_other : bucketNames [bucketFile] = some [some "no"] ∧
    bucketNames [topicFile,bucketFile] = some [some "yes"] := ⟨by decide +kernel,by decide +kernel⟩

end InfraAudit.CloudFormation
