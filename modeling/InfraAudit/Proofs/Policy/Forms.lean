import InfraAudit.Proofs.Policy.Written

/-!
Which definitions are refused. Reading looks at the form of a definition only: at the kind and operator of each leaf, and at
what stands below each operator.
-/

namespace InfraAudit.Policy

open List Draft Condition Kind Value

variable {known : List String} {v : Value} {kind op : String}

/-- The form of a definition; a leaf has the kind and the operator that are written, or empty texts. -/
inductive Form where
  | leaf (kind operator : String)
  | node (operator : String) (parts : List Form)

namespace Form

mutual

/-- A form and all forms in it. -/
def parts : Form → List Form
  | .leaf kind op => [.leaf kind op]
  | .node op fs => .node op fs :: allParts fs

def allParts : List Form → List Form
  | [] => []
  | f::fs => f.parts ++ allParts fs

end

def IsLink : Form → Prop
  | .leaf kind _ => kind = "connection"
  | .node _ _ => False

/-- The operator of a test, without the mark of path queries. -/
def unmarked (op : String) : String := if Text.startsWith op queryMark then Text.replace op queryMark "" else op

/-- The kind of a leaf is one that there is, and has the operator. -/
def Known (kind op : String) : Prop :=
  kind = "" ∨ (kind = "attribute" ∧ (Operator.ofName? (unmarked op)).isSome) ∨
    (kind = "connection" ∧ op ∈ ["exists","not_exists","one_exists"]) ∨ (kind = "filter" ∧ op = "within")

/-- A leaf of no known kind or operator, or a negation of several parts or of a connection. -/
def Faulty : Form → Prop
  | .leaf kind op => ¬ Known kind op
  | .node op fs => op = "not" ∧ (1 < fs.length ∨ ∃ f ∈ allParts fs, f.IsLink)

/-- A conjunction or disjunction with a connection below it. -/
def Joined : Form → Prop
  | .leaf _ _ => False
  | .node op fs => op ≠ "not" ∧ ∃ f ∈ allParts fs, f.IsLink

end Form

def Condition.Joins : Condition → Prop
  | .conj cs | .disj cs => anyConnected cs
  | _ => False

/-- All types, or some by their names. -/
def NamesTypes (v : Value) : Prop := (∃ s, v = .str s ∧ Text.lower s = "all") ∨ ∃ names, v = .ofStrings names

structure LeafForm (kind op : String) (v : Value) : Prop where
  isDict : v.isDict
  uncombined : ∀ op ∈ combiners, (v.getD op).truthy = false
  kind : (v.get? "cond_type").getD "" = .str kind
  operator : (v.get? "operator").getD "" = .str op
  types : ∀ w, v.get? "resource_types" = some w → NamesTypes w
  connected : ∀ w, v.get? "connected_resource_types" = some w → NamesTypes w

namespace Form

mutual

def Of : Form → Value → Prop
  | .leaf kind op,v => LeafForm kind op v
  | .node op fs,v => op ∈ combiners ∧ ∃ parts, NodeWritten op v parts ∧ AllOf fs parts

def AllOf : List Form → List Value → Prop
  | [],[] => True
  | f::fs,v :: vs => f.Of v ∧ AllOf fs vs
  | _,_ => False

end

end Form

def Kind.ofWord? : String → Option Kind
  | "" | "attribute" => some .single
  | "connection" => some .connection
  | "filter" => some .filter
  | _ => none

lemma ofCondType?_str (kind : String) : ofCondType? (.str kind) = .ok (ofWord? kind) := by
  simp only [ofCondType?,ofWord?,hashable,Bool.not_true,Bool.false_eq_true,if_false]
  split <;> rename_i heq <;> simp_all

lemma exists_types (known : List String) (h : ∀ w, v.get? "resource_types" = some w → NamesTypes w) :
    ∃ all names, isOpen ((v.get? "resource_types").getD (.list [])) = .ok all ∧
      (if all then .oneOf known else TypeNames.ofValue ((v.get? "resource_types").getD (.list []))) = .oneOf names := by
  cases hg : v.get? "resource_types" with
  | none => exact ⟨true,known,rfl,rfl⟩
  | some w =>
    rcases h w hg with ⟨s,rfl,ha⟩ | ⟨names,rfl⟩
    · refine ⟨true,known,?_,rfl⟩
      cases hf : (str s).falsy <;> simp [isOpen,hf,ha]
    · cases names with
      | nil => exact ⟨true,known,rfl,rfl⟩
      | cons name names =>
        have ho : isOpen (.ofStrings (name::names)) = .ok (Text.lower name == "all") := rfl
        cases ha : Text.lower name == "all" with
        | true => exact ⟨true,known,ha ▸ ho,rfl⟩
        | false => exact ⟨false,_,ha ▸ ho,rfl⟩

lemma LeafForm.readLeaf (h : LeafForm kind op v) (known : List String) : ∃ key value types connected, readLeaf known v =
    .ok (.leaf (ofWord? kind) (.str (if kind = "" then "any" else op)) key value (.oneOf types) connected) := by
  obtain ⟨all,names,ho,hn⟩ := exists_types known h.types
  simp only [Draft.readLeaf,getOr_of_isDict h.isDict,get_of_isDict h.isDict,ok_bind,h.kind,ofCondType?_str,h.operator,
    beq_str,beq_iff_eq,ho]
  cases all with
  | true => by_cases hk : kind = "" <;> simp only [hk,if_true,if_false] <;> exact ⟨_,_,known,_,rfl⟩
  | false =>
    rw [if_neg Bool.false_ne_true] at hn
    by_cases hk : kind = "" <;> simp only [hk,hn,if_true,if_false,Bool.false_eq_true] <;>
      exact ⟨_,_,names,_,rfl⟩

lemma Kind.ofWord?_eq_none (h : kind ∉ ["","attribute","connection","filter"]) : ofWord? kind = none := by
  simp only [mem_cons,not_or] at h
  unfold ofWord?
  split <;> simp_all

lemma link?_str (op : String) : (link? (.str op)).isSome ↔ op ∈ ["exists","not_exists","one_exists"] := by
  simp only [link?]
  split <;> rename_i h <;> simp_all

variable (key value : Value) (types connected : TypeNames)

lemma leafCondition_cases (kind op : String) (hk : kind ≠ "") :
    (Form.Known kind op ∧ ∃ c, leafCondition (ofWord? kind) (.str op) key value types connected = .ok c ∧
        (c.isConnected ↔ kind = "connection") ∧ ¬ c.Joins) ∨
      (¬ Form.Known kind op ∧ ∃ e, leafCondition (ofWord? kind) (.str op) key value types connected = .error e) := by
  have hh : (str op).hashable := rfl
  have ht : (str op).asText = .ok op := rfl
  simp only [leafCondition,hh,ht,beq_str,Bool.not_true,Bool.false_eq_true,if_false,beq_iff_eq]
  by_cases hnt : op = "not"
  · subst hnt
    refine .inr ⟨?_,_,rfl⟩
    rintro (h | ⟨-,h⟩ | ⟨-,h⟩ | ⟨-,h⟩)
    · exact hk h
    all_goals exact absurd h (by decide)
  simp only [hnt,if_false]
  by_cases hs : kind = "attribute"
  · subst hs
    cases hop : Operator.ofName? (Form.unmarked op) with
    | none =>
      refine .inr ⟨by simp [Form.Known,hop],unsupported (.leaf (some .single) (.str op) key value types connected),?_⟩
      simp only [Form.unmarked] at hop
      simp only [ofWord?,ok_bind,hop]
      rfl
    | some operator =>
      refine .inl ⟨by simp [Form.Known,hop],.attr ⟨types,operator,key.text?,value,Text.startsWith op queryMark⟩,?_,
        by simp [isConnected],by simp [Joins]⟩
      simp only [Form.unmarked] at hop
      simp only [ofWord?,ok_bind,hop]
      rfl
  by_cases hl : kind = "connection"
  · subst hl
    have hkn : Form.Known "connection" op ↔ (link? (.str op)).isSome := by
      simp [Form.Known,link?_str]
    cases hop : link? (.str op) with
    | none =>
      refine .inr ⟨by simp [hkn,hop],unsupported (.leaf (some .connection) (.str op) key value types connected),?_⟩
      simp only [ofWord?,ok_bind]
      rfl
    | some link =>
      refine .inl ⟨by simp [hkn,hop],.connection link types connected,?_,by simp [isConnected],by simp [Joins]⟩
      simp only [ofWord?,ok_bind]
      rfl
  by_cases hf : kind = "filter"
  · subst hf
    by_cases hop : op = "within"
    · subst hop
      exact .inl ⟨by simp [Form.Known],.filter key.text? value types,rfl,by simp [isConnected],by simp [Joins]⟩
    · refine .inr ⟨by simp [Form.Known,hop],unsupported (.leaf (some .filter) (.str op) key value types connected),?_⟩
      simp only [ofWord?,ok_bind,hop]
      rfl
  · have hn : ofWord? kind = none := ofWord?_eq_none (by simp [*])
    rw [hn]
    exact .inr ⟨by simp [Form.Known, *],_,rfl⟩

structure Draft.Judged (d : Draft) (f : Form) : Prop where
  condition : (∃ c, d.condition = .ok c) ↔ ∀ g ∈ f.parts, ¬ g.Faulty
  types : isText d.types = false
  kind : d.kind.any isConnection ↔ ∃ g ∈ f.parts, g.IsLink
  connected : ∀ c, d.condition = .ok c → (c.isConnected ↔ ∃ g ∈ f.parts, g.IsLink) ∧ (c.Joins ↔ f.Joined) ∧
    (d.kind = some .combinedConnection ↔ f.Joined)

structure Draft.AllJudged (ds : List Draft) (fs : List Form) : Prop where
  conditions : (∃ cs, conditions ds = .ok cs) ↔ ∀ g ∈ Form.allParts fs, ¬ g.Faulty
  types : ds.any (isText ·.types) = false
  kind : anyConnection ds ↔ ∃ g ∈ Form.allParts fs, g.IsLink
  connected : ∀ cs, Draft.conditions ds = .ok cs → cs.length = fs.length ∧
    (anyConnected cs ↔ ∃ g ∈ Form.allParts fs, g.IsLink)

lemma Kind.isConnection_ofWord? (kind : String) : (ofWord? kind).any isConnection ↔ kind = "connection" := by
  unfold ofWord?
  split <;> simp_all [isConnection]

lemma Kind.ofWord?_ne (kind : String) : ofWord? kind ≠ some .combinedConnection := by
  unfold ofWord?
  split <;> simp

lemma judged_leaf (names : List String) : Judged (.leaf (ofWord? kind) (.str (if kind = "" then "any" else op)) key
    value (.oneOf names) connected) (.leaf kind op) := by
  have hcs : (Form.Known kind op ∧ ∃ c, leafCondition (ofWord? kind) (.str (if kind = "" then "any" else op)) key
        value (.oneOf names) connected = .ok c ∧ (c.isConnected ↔ kind = "connection") ∧ ¬ c.Joins) ∨
      (¬ Form.Known kind op ∧ ∃ e, leafCondition (ofWord? kind) (.str (if kind = "" then "any" else op)) key value
        (.oneOf names) connected = .error e) := by
    by_cases hem : kind = ""
    · subst hem
      rcases leafCondition_cases key value (.oneOf names) connected "attribute" "any" (by decide) with ⟨-,c,hc,hcn,hj⟩ | ⟨h,-⟩
      · exact .inl ⟨.inl rfl,c,hc,by simpa using hcn,hj⟩
      · exact absurd (.inr (.inl ⟨rfl,by decide⟩)) h
    · rw [if_neg hem]
      exact leafCondition_cases key value (.oneOf names) connected kind op hem
  refine ⟨?_,rfl,?_,?_⟩
  · rcases hcs with ⟨hk,c,hc,-⟩ | ⟨hk,e,he⟩
    · simp [condition,hc,Form.parts,Form.Faulty,hk]
    · simp [condition,he,Form.parts,Form.Faulty,hk]
  · simp [Draft.kind,isConnection_ofWord?,Form.parts,Form.IsLink]
  · intro c' hc'
    rcases hcs with ⟨-,c,hc,hcn,hj⟩ | ⟨-,e,he⟩
    · cases hc.symm.trans hc'
      simp [hcn,hj,Form.parts,Form.IsLink,Form.Joined,Draft.kind,ofWord?_ne]
    · cases he.symm.trans hc'

lemma conditions_cons : conditions (d::ds) = .ok cs ↔
    ∃ c rest, d.condition = .ok c ∧ conditions ds = .ok rest ∧ cs = c :: rest := by
  rw [conditions,bind_eq_ok]
  constructor
  · rintro ⟨c,hc,h⟩
    obtain ⟨rest,hr,h⟩ := bind_eq_ok.1 h
    cases h
    exact ⟨c,rest,hc,hr,rfl⟩
  · rintro ⟨c,rest,hc,hr,rfl⟩
    exact ⟨c,hc,bind_eq_ok.2 ⟨rest,hr,rfl⟩⟩

namespace Draft

lemma allJudged_nil : AllJudged [] [] :=
  ⟨by simp [conditions,Form.allParts],rfl,by simp [anyConnection,Form.allParts],by
    rintro cs ⟨⟩
    simp [anyConnected,Form.allParts]⟩

lemma Judged.cons (hd : d.Judged f) (hds : AllJudged ds fs) : AllJudged (d::ds) (f::fs) := by
  refine ⟨?_,?_,?_,?_⟩
  · simp only [Form.allParts,mem_append,or_imp,forall_and,← hd.condition,← hds.conditions,conditions_cons]
    grind
  · simp [hd.types,hds.types]
  · simp only [anyConnection,Bool.or_eq_true,hd.kind,hds.kind,Form.allParts,mem_append,or_and_right,exists_or]
  · intro cs hcs
    obtain ⟨c,rest,hc,hr,rfl⟩ := conditions_cons.1 hcs
    obtain ⟨hl,hr⟩ := hds.connected rest hr
    simp only [length_cons,hl,anyConnected,Bool.or_eq_true,(hd.connected c hc).1,hr,Form.allParts,
      mem_append,or_and_right,exists_or,and_self]

lemma condition_joined (hop : op ∈ ["and","or"]) (ds : List Draft) : ∃ join : List Condition → Condition,
    (node op ds).condition = (conditions ds).map join ∧ ∀ cs, (join cs).isConnected = anyConnected cs ∧
      ((join cs).Joins ↔ anyConnected cs) := by
  simp only [mem_cons,not_mem_nil,or_false] at hop
  rcases hop with rfl | rfl
  · refine ⟨.conj,?_,fun cs => by simp [isConnected,Joins]⟩
    rw [condition]
    cases conditions ds <;> rfl
  · refine ⟨.disj,?_,fun cs => by simp [isConnected,Joins]⟩
    rw [condition]
    cases conditions ds <;> rfl

lemma condition_negation : (node "not" ds).condition = .ok c ↔
    ∃ part, conditions ds = .ok [part] ∧ anyConnection ds = false ∧ c = .negation part := by
  rw [condition,bind_eq_ok]
  constructor
  · rintro ⟨cs,hcs,h⟩
    rcases cs with _ | ⟨part,_ | ⟨other,rest⟩⟩
    · cases h
    · cases ha : anyConnection ds with
      | true =>
        simp only [ha] at h
        cases h
      | false =>
        simp only [ha] at h
        cases h
        exact ⟨part,hcs,rfl,rfl⟩
    · cases h
  · rintro ⟨part,hp,ha,rfl⟩
    refine ⟨[part],hp,?_⟩
    simp only [ha]
    rfl

lemma judged_node (hop : op ∈ combiners) (hne : fs ≠ []) (h : AllJudged ds fs) : Judged (.node op ds) (.node op fs) := by
  have hl : (∃ g ∈ (Form.node op fs).parts, g.IsLink) ↔ ∃ g ∈ Form.allParts fs, g.IsLink := by
    simp [Form.parts,Form.IsLink]
  have hk : (node op ds).kind.any isConnection ↔ ∃ g ∈ Form.allParts fs, g.IsLink := by
    rw [← h.kind]
    cases ha : anyConnection ds <;> simp [kind,ha,isConnection]
  have hcm : (node op ds).kind = some .combinedConnection ↔ ∃ g ∈ Form.allParts fs, g.IsLink := by
    rw [← h.kind]
    cases ha : anyConnection ds <;> simp [kind,ha]
  have hp : (∀ g ∈ (Form.node op fs).parts, ¬ g.Faulty) ↔
      (op = "not" → fs.length ≤ 1 ∧ anyConnection ds = false) ∧ ∃ cs, conditions ds = .ok cs := by
    rw [h.conditions,Bool.eq_false_iff,ne_eq,h.kind]
    simp [Form.parts,Form.Faulty]
  by_cases hn : op = "not"
  · subst hn
    refine ⟨?_,rfl,hk.trans hl.symm,fun c hc => ?_⟩
    · rw [hp]
      simp only [condition_negation,true_imp_iff]
      constructor
      · rintro ⟨c,part,hpr,ha,-⟩
        exact ⟨⟨(h.connected _ hpr).1.symm.le,ha⟩,_,hpr⟩
      · rintro ⟨⟨ho,ha⟩,cs,hcs⟩
        have hln := (h.connected cs hcs).1
        have hps := length_pos_iff.2 hne
        obtain ⟨part,rfl⟩ := length_eq_one_iff.1 (by omega : cs.length = 1)
        exact ⟨_,part,hcs,ha,rfl⟩
    · obtain ⟨part,-,ha,rfl⟩ := condition_negation.1 hc
      rw [hl,hcm,← h.kind,ha]
      simp [isConnected,Joins,Form.Joined]
  · obtain ⟨join,hj,hcn⟩ := condition_joined (by simpa [combiners,hn] using hop : op ∈ ["and","or"]) ds
    refine ⟨?_,rfl,hk.trans hl.symm,fun c hc => ?_⟩
    · rw [hp,hj]
      cases conditions ds <;> simp [hn,Except.map]
    · rw [hj] at hc
      cases hcs : conditions ds with
      | error e =>
        rw [hcs] at hc
        cases hc
      | ok cs =>
        rw [hcs] at hc
        cases hc
        rw [hl,hcm,(hcn cs).1,(hcn cs).2,(h.connected cs hcs).2]
        simp [Form.Joined,hn]

end Draft

lemma length_of_allOf : ∀ {fs : List Form} {vs : List Value}, Form.AllOf fs vs → fs.length = vs.length
  | [],[],_ => rfl
  | _::_,_ :: _,⟨_,h⟩ => congrArg Nat.succ (length_of_allOf h)

lemma LeafForm.exists_read (h : LeafForm kind op v) (n : Nat) :
    ∃ d, read known (n+1) v = .ok d ∧ d.Judged (.leaf kind op) := by
  obtain ⟨key,value,types,connected,hr⟩ := h.readLeaf known
  rw [read_uncombined h.isDict h.uncombined]
  exact ⟨_,hr,judged_leaf key value connected types⟩

mutual

lemma exists_judged : ∀ {f : Form} {v : Value} {n : Nat}, f.Of v → v.nesting < n →
    ∃ d, read known n v = .ok d ∧ d.Judged f
  | .leaf kind op,v,n+1,h,_ => LeafForm.exists_read h n
  | .node op fs,v,n+1,⟨hop,parts,hnd,hp⟩,hn => by
    obtain ⟨ds,hds,hj⟩ := exists_allJudged hp (hnd.nesting_lt hn)
    have hne : fs ≠ [] := by
      rintro rfl
      exact hnd.ne_nil (length_eq_zero_iff.1 (length_of_allOf hp).symm)
    exact ⟨.node op ds,read_node hop hnd hds hj.types,judged_node hop hne hj⟩

lemma exists_allJudged : ∀ {fs : List Form} {vs : List Value} {n : Nat}, Form.AllOf fs vs → (∀ v ∈ vs, v.nesting < n) →
    ∃ ds, vs.mapM (Draft.read known n) = .ok ds ∧ AllJudged ds fs
  | [],[],n,_,_ => ⟨[],rfl,allJudged_nil⟩
  | f::fs,v :: vs,n,⟨hf,hr⟩,hl => by
    obtain ⟨d,hd,hj⟩ := exists_judged hf (hl v (by simp))
    obtain ⟨ds,hds,ha⟩ := exists_allJudged hr fun v hv => hl v (by simp [hv])
    refine ⟨d :: ds,?_,hj.cons ha⟩
    simp [mapM_cons,hd,hds]

end

structure PolicyForm (f : Form) (v : Value) : Prop where
  isDict : v.isDict
  definition : f.Of ((v.get? "definition").getD (.dict []))
  metadata : ∀ m, v.get? "metadata" = some m → m.isDict

lemma exists_draft (known : List String) (h : PolicyForm f v) : ∃ draft : Draft, draft.Judged f ∧
    ((∃ p, Rule.readWith known v = .ok p) ↔ ∃ c, draft.condition = .ok c) ∧
      ∀ p, Rule.readWith known v = .ok p → draft.condition = .ok p.condition ∧ p.kind = draft.kind := by
  obtain ⟨draft,hd,hj⟩ : ∃ d, read known _ _ = .ok d ∧ d.Judged f := exists_judged h.definition (Nat.lt_succ_self _)
  have hmt := isDict_metadata h.metadata
  refine ⟨draft,hj,?_⟩
  simp only [Rule.readWith,getOr_of_isDict h.isDict,ok_bind,hd,getOr_of_isDict hmt,Rule.ofDraft]
  cases hc : draft.condition with
  | error e => exact ⟨by simp,fun p hp => by cases hp⟩
  | ok c => exact ⟨by simp,fun p hp => by cases hp ; exact ⟨rfl,rfl⟩⟩

/-- A policy is refused exactly if its definition has a faulty part. Otherwise it is one of joined connections exactly if
the definition is a conjunction or disjunction with a connection below it. -/
theorem refused_iff_faulty {known : List String} {v : Value} {f : Form} (h : PolicyForm f v) :
    ((∃ e, Rule.readWith known v = .error e) ↔ ∃ g ∈ f.parts, g.Faulty) ∧ ∀ p, Rule.readWith known v = .ok p →
        (p.condition.Joins ↔ f.Joined) ∧ (p.kind = some .combinedConnection ↔ f.Joined) := by
  obtain ⟨draft,hjudged,hok,hp⟩ := exists_draft known h
  constructor
  · have hrefused : (∃ e, Rule.readWith known v = .error e) ↔ ¬ ∃ p, Rule.readWith known v = .ok p := by
      cases Rule.readWith known v <;> simp
    rw [hrefused,hok,hjudged.condition]
    simp
  · intro p hread
    obtain ⟨hcondition,hkind⟩ := hp p hread
    obtain ⟨-,hjoins,hcombined⟩ := hjudged.connected p.condition hcondition
    exact ⟨hjoins,hkind ▸ hcombined⟩

def link : Value := .dict [("cond_type","connection"),("operator","exists"),("resource_types",.ofStrings ["net"]),
  ("connected_resource_types",.ofStrings ["host"])]

def pathTest : Value := .dict [("cond_type","attribute"),("operator","jsonpath_equals"),("attribute","$.a")]

/-- A connection two joins below. -/
def joinedParts : Value := .dict [("or",.list [.dict [("and",.list [pathTest,link])],.dict []])]

def joinedForm : Form :=
  .node "or" [.node "and" [.leaf "attribute" "jsonpath_equals",.leaf "connection" "exists"],.leaf "" ""]

lemma joinedForm_of : joinedForm.Of joinedParts := by
  have hp : LeafForm "attribute" "jsonpath_equals" pathTest := ⟨rfl,by decide,rfl,rfl,nofun,nofun⟩
  have hl : LeafForm "connection" "exists" link := by
    refine ⟨rfl,by decide,rfl,rfl,?_,?_⟩
    · rintro w ⟨⟩
      exact .inr ⟨_,rfl⟩
    · rintro w ⟨⟩
      exact .inr ⟨_,rfl⟩
  have he : LeafForm "" "" (.dict []) := ⟨rfl,by decide,rfl,rfl,nofun,nofun⟩
  exact ⟨by decide,_,⟨rfl,by decide,_,rfl,rfl,.inl rfl⟩,
    ⟨by decide,_,⟨rfl,by decide,_,rfl,rfl,.inl rfl⟩,hp,hl,trivial⟩,he,trivial⟩

theorem refused_iff_faulty_joined : (PolicyForm joinedForm (.dict [("definition",joinedParts)]) ∧
      ∃ p, Rule.readWith [] (.dict [("definition",joinedParts)]) = .ok p ∧ p.condition.Joins ∧
        p.kind = some .combinedConnection) ∧
    PolicyForm (.node "not" [joinedForm]) (.dict [("definition",.dict [("not",joinedParts)])]) ∧
      ∃ e, Rule.readWith [] (.dict [("definition",.dict [("not",joinedParts)])]) = .error e := by
  have hjoined : PolicyForm joinedForm (.dict [("definition",joinedParts)]) := ⟨rfl,joinedForm_of,nofun⟩
  have hnegated : PolicyForm (.node "not" [joinedForm]) (.dict [("definition",.dict [("not",joinedParts)])]) :=
    ⟨rfl,⟨by decide,_,⟨rfl,by decide,_,rfl,rfl,.inr ⟨rfl,rfl⟩⟩,joinedForm_of,trivial⟩,nofun⟩
  have hlink : ∃ g ∈ Form.allParts [joinedForm], g.IsLink :=
    ⟨.leaf "connection" "exists",by simp [joinedForm,Form.allParts,Form.parts],rfl⟩
  have hroot : joinedForm.Joined := ⟨by decide,.leaf "connection" "exists",by simp [Form.allParts,Form.parts],rfl⟩
  have hread : ∃ p, Rule.readWith [] (.dict [("definition",joinedParts)]) = .ok p := exists_of_isOk (by decide +kernel)
  obtain ⟨p,hp⟩ := hread
  obtain ⟨hjoins,hkind⟩ := (refused_iff_faulty hjoined).2 p hp
  exact ⟨⟨hjoined,p,hp,hjoins.2 hroot,hkind.2 hroot⟩,hnegated,
    (refused_iff_faulty hnegated).1.2 ⟨_,List.mem_cons_self,rfl,.inr hlink⟩⟩

end InfraAudit.Policy
