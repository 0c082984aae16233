import InfraAudit.Policy.Definition
import InfraAudit.Proofs.Policy.Truth

/-!
The written form of conditions without connections, filters and path queries. Every definition of this form can be read, and
stands for the condition that it spells.
-/

namespace InfraAudit.Policy

open List Nat Value Draft

variable {parts : List Value} {op : String} {w v : Value}

section

open Value (nesting)

lemma nesting_le_nestingFields {fs : Fields} (h : fs.lookup k = some w) : w.nesting ≤ nesting.nestingFields fs := by
  induction fs with
  | nil => simp at h
  | cons f fs ih =>
    obtain ⟨k',v⟩ := f
    rw [lookup_cons] at h
    split at h
    · cases h
      exact le_max_left _ _
    · exact le_trans (ih h) (le_max_right _ _)

lemma nesting_le_nestingEntries
    (h : findEntry p es = some w) : w.nesting ≤ nesting.nestingEntries es := by
  induction es with
  | nil => simp [findEntry] at h
  | cons e es ih =>
    obtain ⟨k,v⟩ := e
    rw [findEntry] at h
    split at h
    · cases h
      exact le_max_left _ _
    · exact le_trans (ih h) (le_max_right _ _)

lemma nesting_lt_of_get? (h : v.get? k = some w) : w.nesting < v.nesting := by
  cases v with
  | dict fs => exact lt_succ_of_le (nesting_le_nestingFields h)
  | table es => exact lt_succ_of_le (nesting_le_nestingEntries h)
  | _ => simp [get?] at h

lemma nesting_lt_of_mem (h : w ∈ xs) : w.nesting < (list xs).nesting := by
  exact lt_succ_of_le (nestingItems_le_iff.1 le_rfl w h)

end

structure LeafWritten (known : List String) (t : AttributeTest) (v : Value) : Prop where
  isDict : v.isDict = true
  uncombined : ∀ op ∈ combiners, (v.getD op).truthy = false
  types : ∃ name rest, v.get? "resource_types" = some (.list (.str name :: rest)) ∧
    t.types = .oneOf (if Text.lower name = "all" then known else name :: rest.filterMap text?)
  types_ne : t.types.members ≠ []
  kind : v.get? "cond_type" = some (.str "attribute")
  operator : ∃ name, v.get? "operator" = some (.str name) ∧ Operator.ofName? name = some t.operator
  asks : t.attribute? = (v.getD "attribute").text?
  value : t.value = v.getD "value"
  byPath : t.byPath = false

structure NodeWritten (op : String) (v : Value) (parts : List Value) : Prop where
  isDict : v.isDict
  first : ∀ other ∈ combiners.takeWhile (· != op), (v.getD other).truthy = false
  parts : ∃ w, v.get? op = some w ∧ w.truthy ∧ (w = .list parts ∨ w.isDict ∧ parts = [w])

mutual

def Written (known : List String) : Condition → Value → Prop
  | .attr t,v => LeafWritten known t v
  | .conj cs,v => ∃ parts, NodeWritten "and" v parts ∧ WrittenAll known cs parts
  | .disj cs,v => ∃ parts, NodeWritten "or" v parts ∧ WrittenAll known cs parts
  | .negation c,v => ∃ part, NodeWritten "not" v [part] ∧ Written known c part
  | _,_ => False

def WrittenAll (known : List String) : List Condition → List Value → Prop
  | [],[] => True
  | c::cs,v :: vs => Written known c v ∧ WrittenAll known cs vs
  | _,_ => False

end

lemma combiner?_eq (h : v.isDict) : combiner? v = .ok (combiners.find? fun op => (v.getD op).truthy) := by
  simp only [combiner?,combiners,get_of_isDict h,forIn_cons,forIn_nil,ok_bind,pure,Except.pure]
  cases ha : (v.getD "and").truthy with
  | true => simp [ha]
  | false =>
    cases hor : (v.getD "or").truthy with
    | true => simp [ha,hor]
    | false => cases hn : (v.getD "not").truthy <;> simp [ha,hor,hn]

lemma NodeWritten.combiner? (h : NodeWritten op v parts) (hop : op ∈ combiners) : combiner? v = .ok (some op) := by
  rw [combiner?_eq h.isDict]
  obtain ⟨w,hw,ht,-⟩ := h.parts
  have htr : (v.getD op).truthy := by rw [Value.getD,hw,Option.getD_some,ht]
  have hf := h.first
  simp only [combiners,mem_cons,not_mem_nil,or_false] at hop
  rcases hop with rfl | rfl | rfl
  · simp [combiners,htr]
  · have ha := hf "and" (by decide)
    simp [combiners,htr,ha]
  · have ha := hf "and" (by decide)
    have hor := hf "or" (by decide)
    simp [combiners,htr,ha,hor]

lemma ofName?_plain {name : String} {op : Operator} (h : Operator.ofName? name = some op) :
    name ≠ "not" ∧ Text.startsWith name queryMark = false := by
  unfold Operator.ofName? at h
  split at h
  all_goals first | exact ⟨by decide,by decide⟩ | cases h

structure Draft.Spells (d : Draft) (c : Condition) : Prop where
  condition : d.condition = .ok c
  types : isText d.types = false
  kind : d.kind.any Kind.isConnection = false

lemma LeafWritten.readLeaf (h : LeafWritten known t v) :
    ∃ d, Draft.readLeaf known v = .ok d ∧ d.Spells (.attr t) := by
  obtain ⟨first,rest,ht,hty⟩ := h.types
  obtain ⟨name,hn,hop⟩ := h.operator
  obtain ⟨hnt,hm⟩ := ofName?_plain hop
  have ho : Draft.isOpen (.list (.str first :: rest)) = .ok (Text.lower first == "all") := rfl
  have hof : TypeNames.ofValue (.list (.str first :: rest)) = .oneOf (first :: rest.filterMap text?) := rfl
  have hr : ∃ connected, Draft.readLeaf known v =
      .ok (.leaf (some .single) (.str name) (v.getD "attribute") (v.getD "value") t.types connected) := by
    simp only [Draft.readLeaf,getOr_of_isDict h.isDict,get_of_isDict h.isDict,ht,h.kind,hn,Option.getD_some,
      ok_bind,ho,hof,hty,beq_str,beq_iff_eq]
    by_cases ha : Text.lower first = "all"
    · simp only [ha,if_true]
      exact ⟨_,rfl⟩
    · simp only [ha,if_false]
      exact ⟨_,rfl⟩
  obtain ⟨connected,hr⟩ := hr
  refine ⟨_,hr,?_,?_,rfl⟩
  · have hts : (⟨t.types,t.operator,(v.getD "attribute").text?,v.getD "value",false⟩ : AttributeTest) = t := by
      rw [← h.asks,← h.value,← h.byPath]
    have hh : (str name).hashable = true := rfl
    have htx : (str name).asText = .ok name := rfl
    simp only [Draft.condition,Draft.leafCondition,hh,beq_str,beq_iff_eq,hnt,htx,hm,hop,Bool.not_true,
      Bool.false_eq_true,if_false,ok_bind,hts]
    rfl
  · rw [hty]
    rfl

lemma read_uncombined (hd : v.isDict) (hu : ∀ op ∈ combiners, (v.getD op).truthy = false) (n : Nat) :
    read known (n+1) v = readLeaf known v := by
  have hn : combiners.find? (fun op => (v.getD op).truthy) = none := by
    rw [List.find?_eq_none]
    intro op hop
    simp [hu op hop]
  rw [Draft.read,combiner?_eq hd,hn]
  rfl

lemma read_leaf (h : LeafWritten known t v) (n : Nat) : ∃ d, read known (n+1) v = .ok d ∧ d.Spells (.attr t) := by
  rw [read_uncombined h.isDict h.uncombined]
  exact h.readLeaf

lemma NodeWritten.nesting_lt (h : NodeWritten op v parts) (hn : v.nesting < n+1) :
    ∀ part ∈ parts, part.nesting < n := by
  intro part hp
  obtain ⟨w,hw,-,hpr⟩ := h.parts
  have hlt := lt_of_lt_of_le (nesting_lt_of_get? hw) (le_of_lt_succ hn)
  rcases hpr with rfl | ⟨-,rfl⟩
  · exact lt_trans (nesting_lt_of_mem hp) hlt
  · rwa [mem_singleton.1 hp]

lemma read_node (hop : op ∈ Draft.combiners)
    (h : NodeWritten op v parts) (hds : parts.mapM (Draft.read known n) = .ok ds)
    (ht : ds.any (Draft.isText ·.types) = false) : Draft.read known (n+1) v = .ok (.node op ds) := by
  obtain ⟨w,hw,-,hp⟩ := h.parts
  have hg : v.get op = .ok w := by rw [get_of_isDict h.isDict,Value.getD,hw,Option.getD_some]
  rw [Draft.read,h.combiner? hop]
  simp only [bind,Except.bind,hg]
  rcases hp with rfl | ⟨hd,rfl⟩
  · simp only [Value.isDict,Bool.false_eq_true,if_false,Value.elems,hds,ht]
    rfl
  · simp only [hd,if_true,pure,Except.pure,hds,ht,Bool.false_eq_true,if_false]

lemma NodeWritten.ne_nil (h : NodeWritten op v parts) : parts ≠ [] := by
  obtain ⟨w,-,ht,hp⟩ := h.parts
  rcases hp with rfl | ⟨-,rfl⟩
  · rintro rfl
    simp [truthy] at ht
  · simp

lemma ne_nil_of_written
    (h : NodeWritten op v parts) (hcs : WrittenAll known cs parts) : cs ≠ [] := by
  rintro rfl
  cases parts with
  | nil => exact h.ne_nil rfl
  | cons v vs => simp [WrittenAll] at hcs

lemma Draft.kind_node (h : anyConnection ds = false) : (node op ds).kind.any Kind.isConnection = false := by
  simp [kind,h,Kind.isConnection]

mutual

lemma exists_read : ∀ {c : Condition} {v : Value} {n : Nat}, Written known c v → v.nesting < n →
    ∃ d, read known n v = .ok d ∧ d.Spells c
  | .attr t,v,n+1,h,_ => read_leaf h n
  | .conj cs,v,n+1,⟨parts,hnd,hp⟩,hn => by
    obtain ⟨ds,hds,hc,ht,hk⟩ := exists_readAll hp (hnd.nesting_lt hn)
    refine ⟨.node "and" ds,read_node (by decide) hnd hds ht,?_,rfl,kind_node hk⟩
    simp only [condition,hc]
    rfl
  | .disj cs,v,n+1,⟨parts,hnd,hp⟩,hn => by
    obtain ⟨ds,hds,hc,ht,hk⟩ := exists_readAll hp (hnd.nesting_lt hn)
    refine ⟨.node "or" ds,read_node (by decide) hnd hds ht,?_,rfl,kind_node hk⟩
    simp only [condition,hc]
    rfl
  | .negation c,v,n+1,⟨part,hnd,hpr⟩,hn => by
    obtain ⟨d,hd,hs⟩ := exists_read hpr (hnd.nesting_lt hn part (by simp))
    have hds : [part].mapM (read known n) = .ok [d] := by
      simp [mapM_cons,hd]
    have hk : anyConnection [d] = false := by simp [anyConnection,hs.kind]
    refine ⟨.node "not" [d],read_node (by decide) hnd hds (by simp [hs.types]),?_,rfl,kind_node hk⟩
    simp only [condition,conditions,hs.condition,hk,ok_bind]
    rfl

lemma exists_readAll : ∀ {cs : List Condition} {vs : List Value} {n : Nat}, WrittenAll known cs vs →
    (∀ v ∈ vs, v.nesting < n) → ∃ ds, vs.mapM (read known n) = .ok ds ∧ conditions ds = .ok cs ∧
      ds.any (isText ·.types) = false ∧ anyConnection ds = false
  | [],[],n,_,_ => ⟨[],rfl,rfl,rfl,rfl⟩
  | c::cs,v :: vs,n,⟨hf,hr⟩,hl => by
    obtain ⟨d,hd,hs⟩ := exists_read hf (hl v (by simp))
    obtain ⟨ds,hds,hc,ht,hk⟩ := exists_readAll hr fun v hv => hl v (by simp [hv])
    refine ⟨d :: ds,?_,?_,?_,?_⟩
    · simp [mapM_cons,hd,hds]
    · simp [conditions,hs.condition,hc]
    · simp [hs.types,ht]
    · simp [anyConnection,hs.kind,hk]

end

mutual

lemma plain_of_written : ∀ {c : Condition} {v : Value}, Written known c v → c.Plain
  | .attr t,v,h => by
    obtain ⟨name,rest,-,ht⟩ := h.types
    have hne := h.types_ne
    rw [ht] at hne
    exact ⟨h.byPath,_,ht,hne⟩
  | .conj cs,v,⟨parts,hn,hp⟩ => ⟨ne_nil_of_written hn hp,plainAll_of_written hp⟩
  | .disj cs,v,⟨parts,hn,hp⟩ => ⟨ne_nil_of_written hn hp,plainAll_of_written hp⟩
  | .negation c,v,⟨part,_,hpr⟩ => plain_of_written (c := c) hpr

lemma plainAll_of_written : ∀ {cs : List Condition} {vs : List Value}, WrittenAll known cs vs → Condition.PlainAll cs
  | [],[],_ => trivial
  | _::_,_ :: _,⟨hf,hr⟩ => ⟨plain_of_written hf,plainAll_of_written hr⟩

end

structure PolicyWritten (known : List String) (c : Condition) (v : Value) : Prop where
  isDict : v.isDict
  definition : ∃ d, v.get? "definition" = some d ∧ Written known c d
  metadata : ∀ m, v.get? "metadata" = some m → m.isDict

lemma isDict_metadata (h : ∀ m, v.get? "metadata" = some m → m.isDict) :
    ((v.get? "metadata").getD (.dict [])).isDict := by
  cases hm : v.get? "metadata" with
  | none => rfl
  | some m => exact h m hm

lemma exists_readWith (h : PolicyWritten known c v) : ∃ p, Rule.readWith known v = .ok p ∧ p.condition = c := by
  obtain ⟨d,hd,hw⟩ := h.definition
  obtain ⟨draft,hdr,hs⟩ := exists_read hw (Nat.lt_succ_self _)
  have hmt := isDict_metadata h.metadata
  simp only [Rule.readWith,getOr_of_isDict h.isDict,hd,Option.getD_some,ok_bind,hdr,
    getOr_of_isDict hmt,Rule.ofDraft,hs.condition]
  exact ⟨_,rfl,rfl⟩

/-- The verdicts of a policy made of tests, conjunctions, disjunctions and negations are those of the formula that
its definition spells, on every vertex of a type that the formula names. -/
theorem run_follows_formula {known : List String} {c : Condition} {v : Value} (hv : PolicyWritten known c v) {g : Net}
    (hdistinct : g.Distinct) (hjudged : ∀ i ∈ g.nodes, (g.get? i "resource_type").isSome → g.isJudged i = true)
    (hanswers : ∀ i ∈ g.nodes, ∀ t ∈ c.leaves, t.Answers (g.data i)) :
    ∃ p o, Rule.readWith known v = .ok p ∧ p.run g = .ok (o,g) ∧ o.passed.Nodup ∧ o.failed.Nodup ∧
      ∀ i, (i ∈ o.passed ↔ i ∈ g.nodes ∧ c.Named (g.data i) ∧ c.Truth (g.data i)) ∧
        (i ∈ o.failed ↔ i ∈ g.nodes ∧ c.Named (g.data i) ∧ ¬ c.Truth (g.data i)) := by
  obtain ⟨p,hp,rfl⟩ := exists_readWith hv
  obtain ⟨definition,-,hwritten⟩ := hv.definition
  obtain ⟨o,ho,hjudges⟩ := Run.exec_policy (plain_of_written hwritten) hdistinct hjudged hanswers
  have hrun : p.run g = .ok (o,g) := by
    have happly : p.apply g = (.ok o,g) := ho
    simp only [Rule.run,happly]
    rfl
  have hnodup : g.nodes.Nodup := List.nodup_range
  exact ⟨p,o,hp,hrun,hnodup.sublist hjudges.passed_sublist,hnodup.sublist hjudges.failed_sublist,
    fun i => ⟨hjudges.mem_passed i,hjudges.mem_failed i⟩⟩

def written (types : List String) (operator key : String) (value : Value) : Value :=
  .dict [("resource_types",.ofStrings types),("cond_type","attribute"),("operator",.str operator),
    ("attribute",.str key),("value",value)]

def namedElsewhere : Condition :=
  .conj [.attr ⟨.oneOf ["bucket","host"],.present,some "name",.null,false⟩,
    .negation (.attr ⟨.oneOf ["host"],.equals,some "port",.int 80,false⟩)]

def namedElsewherePolicy : Value :=
  .dict [("definition",.dict [("and",.list [written ["bucket","host"] "exists" "name" .null,
    .dict [("not",written ["host"] "equals" "port" (.int 80))]])])]

/-- A host on port 80, one on port 22, a bucket without a name, a queue, and a module. -/
def fivePlaces : Net := .ofParts
  [[("block_type_","resource"),("resource_type","host"),("source_","Terraform"),("name","a"),("port",.int 80)],
    [("block_type_","resource"),("resource_type","host"),("source_","Terraform"),("name","b"),("port",.int 22)],
    [("block_type_","data"),("resource_type","bucket"),("source_","Terraform")],
    [("block_type_","resource"),("resource_type","queue"),("source_","Terraform"),("name","c")],
    [("block_type_","module"),("source_","Terraform"),("name","d")]] []

theorem run_follows_formula_fivePlaces : PolicyWritten [] namedElsewhere namedElsewherePolicy ∧ fivePlaces.Distinct ∧
      ∃ p o, Rule.readWith [] namedElsewherePolicy = .ok p ∧ p.run fivePlaces = .ok (o,fivePlaces) ∧
        0 ∈ o.failed ∧ 1 ∈ o.passed ∧ 2 ∈ o.failed ∧ 3 ∉ o.passed ∧ 3 ∉ o.failed := by
  have hleaf : LeafWritten [] ⟨.oneOf ["bucket","host"],.present,some "name",.null,false⟩
      (written ["bucket","host"] "exists" "name" .null) :=
    ⟨rfl,by decide,⟨_,_,rfl,rfl⟩,by decide,rfl,⟨_,rfl,rfl⟩,rfl,rfl,rfl⟩
  have hport : LeafWritten [] ⟨.oneOf ["host"],.equals,some "port",.int 80,false⟩
      (written ["host"] "equals" "port" (.int 80)) :=
    ⟨rfl,by decide,⟨_,_,rfl,rfl⟩,by decide,rfl,⟨_,rfl,rfl⟩,rfl,rfl,rfl⟩
  have hwritten : PolicyWritten [] namedElsewhere namedElsewherePolicy :=
    ⟨rfl,⟨_,rfl,_,⟨rfl,by decide,_,rfl,rfl,.inl rfl⟩,hleaf,
      ⟨_,⟨rfl,by decide,_,rfl,rfl,.inr ⟨rfl,rfl⟩⟩,hport⟩,trivial⟩,nofun⟩
  have hdistinct : fivePlaces.Distinct := by
    show ∀ i < 5, ∀ j < 5, _
    decide +kernel
  have hjudged : ∀ i ∈ fivePlaces.nodes, (fivePlaces.get? i "resource_type").isSome → fivePlaces.isJudged i = true := by
    decide +kernel
  have hanswers : ∀ i ∈ fivePlaces.nodes, ∀ t ∈ namedElsewhere.leaves, t.Answers (fivePlaces.data i) := by
    have hquery : ∀ t ∈ namedElsewhere.leaves, t.query? = none := by decide +kernel
    have hok : ∀ i ∈ fivePlaces.nodes, ∀ t ∈ namedElsewhere.leaves,
        (t.holdsFor (fivePlaces.data i) t.attribute?).isOk = true := by decide +kernel
    intro i hi t ht
    exact AttributeTest.answers_of_query? (hquery t ht) (exists_of_isOk (hok i hi t ht))
  obtain ⟨p,o,hp,ho,-,-,hverdicts⟩ := run_follows_formula hwritten hdistinct hjudged hanswers
  have hplain : namedElsewhere.Plain := plain_of_written hwritten.definition.choose_spec.2
  have hverdicts : ∀ i ∈ fivePlaces.nodes,
      (i ∈ o.passed ↔ isOfType namedElsewhere.typeNames (fivePlaces.data i) = true ∧
        (exec namedElsewhere.holdsAt (fivePlaces.data i)).1.toOption = some true) ∧
      (i ∈ o.failed ↔ isOfType namedElsewhere.typeNames (fivePlaces.data i) = true ∧
        (exec namedElsewhere.holdsAt (fivePlaces.data i)).1.toOption ≠ some true) := by
    intro i hi
    simp only [hverdicts,hi,true_and,Condition.named_iff hplain,isOfType_iff,
      Condition.truth_iff hplain (hanswers i hi),ne_eq,and_self]
  refine ⟨hwritten,hdistinct,p,o,hp,ho,?_,?_,?_,?_,?_⟩
  · exact (hverdicts 0 (by decide)).2.2 (by decide +kernel)
  · exact (hverdicts 1 (by decide)).1.2 (by decide +kernel)
  · exact (hverdicts 2 (by decide)).2.2 (by decide +kernel)
  · exact fun h => absurd ((hverdicts 3 (by decide)).1.1 h) (by decide +kernel)
  · exact fun h => absurd ((hverdicts 3 (by decide)).2.1 h) (by decide +kernel)

end InfraAudit.Policy
