import InfraAudit.Proofs.Decimal.Numeral
import InfraAudit.Proofs.Terraform.Expansion
import InfraAudit.Proofs.Text.Dotted
import InfraAudit.Proofs.Text.Matching
import InfraAudit.Terraform.Aws.Network
import InfraAudit.Terraform.Azure.Network
import InfraAudit.Terraform.Google.Compute

/-!
Ports that rules of a network open. Each provider writes its rules in its own way; what a check sees of them differs in the
least port that a range may start with and in the words for all addresses.
-/

namespace InfraAudit.Terraform

open List Value Decimal Except Text Text.Pattern Terraform.Aws Terraform.Azure

/-- Ranges of ports, and the addresses from which they can be reached. -/
structure Opening where
  ranges : List (Nat × Nat)
  sources : List String
  wide : List String := []

def covers (p least : Nat) (rs : List (Nat × Nat)) : Bool := rs.any fun r => least ≤ r.1 && r.1 ≤ p && p ≤ r.2

/-- The least port at which a check sees ranges start, and its words for all addresses. -/
structure Sight where
  least : Nat
  words : List String
  wide : List String := []

def Opening.seen (p : Nat) (t : Sight) (o : Opening) : Bool :=
  covers p t.least o.ranges && (o.sources.any t.words.contains || o.wide.any t.wide.contains)

/-- The rule cut down to its first address. -/
def Opening.first (o : Opening) : Opening := {o with sources := o.sources.take 1, wide := []}

def Holds (fs : Fields) (key : String) (v : Value) : Prop := fs.lookup key = some (.list [v])

def HoldsOne (fs : Fields) (key : String) (vs : List Value) : Prop :=
  fs.lookup key = none ∧ vs = [] ∨ ∃ v, vs = [v] ∧ Holds fs key v

def HoldsMany (fs : Fields) (key : String) (vs : List Value) : Prop :=
  fs.lookup key = none ∧ vs = [] ∨ Holds fs key (.list vs)

variable {conf rule : Fields} {rules : List Fields} {o : Opening} {os : List Opening}
  {p a b n : Nat} {ss ws : List String}

def IsPort (v : Value) (n : Nat) : Prop := v = .int n ∨ v = .str (toString n)

lemma covers_append (least : Nat) (rs rs' : List (Nat × Nat)) :
    covers p least (rs ++ rs') = (covers p least rs || covers p least rs') := any_append

lemma intOf?_of_isPort (h : IsPort v n) : intOf? v = some (n : Int) := by
  rcases h with rfl | rfl
  · rfl
  · rw [intOf?,toInt_text,integer_toString]
    rfl

lemma first_single (v : Value) : (list [v]).first = .ok v := rfl

lemma isOneOf_text (s : String) (ws : List String) : (str s).isOneOf ws = ws.contains s := by
  rw [isOneOf,contains_eq_any_beq]
  congr 1
  funext w
  exact beq_str s w

lemma contains_if (b : Bool) (ss : List String) (w : String) :
    (if b then ss else []).contains w = (b && ss.contains w) := by
  cases b <;> rfl

lemma any_contains_one (ss : List String) (w : String) : ss.any [w].contains = ss.contains w := by
  rw [contains_eq_any_beq]
  congr 1
  funext s
  rw [contains_cons,contains_nil,Bool.or_false,Bool.beq_comm]

/-- The rules of a configuration: blocks of some name, or the configuration itself. -/
def Gives (conf : Fields) (key : String) (alone : Prop) (rules : List Fields) : Prop :=
  conf.lookup key = some (.list (rules.map .dict)) ∨ conf.lookup key = none ∧ rules = [conf] ∧ alone

section

variable {α β : Type} {f : α → Result Bool} {g : β → Bool} {l : List α} {os : List β}

lemma findM?_eq (h : Forall₂ (fun a o => f a = .ok (g o)) l os) :
    ∃ found, l.findM? f = .ok found ∧ found.isSome = os.any g ∧ ∀ a ∈ found, a ∈ l := by
  induction h with
  | nil => exact ⟨none,rfl,rfl,by simp⟩
  | @cons a o l os ha _ ih =>
    obtain ⟨found,hf,hs,hm⟩ := ih
    rw [List.findM?,ha,any_cons]
    cases g o with
    | true => exact ⟨some a,rfl,rfl,by simp⟩
    | false => exact ⟨found,hf,hs,fun b hb => mem_cons_of_mem _ (hm b hb)⟩

end

namespace Aws

def HoldsPort (rule : Fields) (key : String) (n : Nat) : Prop :=
  ∃ v, IsPort v n ∧ (Holds rule key v ∨ rule.lookup key = some v)

structure GroupRule (rule : Fields) (o : Opening) : Prop where
  ports : ∃ a b, HoldsPort rule "from_port" a ∧ HoldsPort rule "to_port" b ∧
    o.ranges = [(a,if a = 0 ∧ b = 0 then 65535 else b)]
  sources : HoldsMany rule "cidr_blocks" (o.sources.map .str)
  wide : HoldsMany rule "ipv6_cidr_blocks" (o.wide.map .str)

/-- The rule in a list of mappings, whose addresses are not in a further list. -/
structure GroupItem (rule : Fields) (o : Opening) : Prop where
  ports : ∃ a b, HoldsPort rule "from_port" a ∧ HoldsPort rule "to_port" b ∧
    o.ranges = [(a,if a = 0 ∧ b = 0 then 65535 else b)]
  sources : rule.lookup "cidr_blocks" = some (.list (o.sources.map .str))
  wide : rule.lookup "ipv6_cidr_blocks" = none

def everywhere : List String := ["::/0","0000:0000:0000:0000:0000:0000:0000:0000/0"]

def groupSight : Sight := ⟨0,["0.0.0.0/0"],everywhere⟩

def listSight : Sight := ⟨1,["0.0.0.0/0"],["::/0"]⟩

lemma groupPort_eq (h : HoldsPort rule key n) : groupPort (.dict rule) key = .ok (some (n : Int)) := by
  obtain ⟨v,hv,hg⟩ := h
  have hl : v.listed = .list [v] := by
    rcases hv with rfl | rfl <;> rfl
  have hf : ∃ w, (dict rule).get? key = some w ∧ w.listed = .list [v] := by
    rcases hg with hg | hg
    · exact ⟨_,hg,rfl⟩
    · exact ⟨_,hg,hl⟩
  obtain ⟨w,hw,hwv⟩ := hf
  simp only [groupPort,hw,hwv,first_single,ok_bind,intOf?_of_isPort hv]
  rfl

lemma opensNarrow_eq (h : HoldsMany rule "cidr_blocks" (ss.map .str)) :
    opensNarrow (.dict rule) = .ok (ss.contains "0.0.0.0/0") := by
  rw [opensNarrow,get?]
  rcases h with ⟨hn,hss⟩ | hs
  · rw [hn,map_eq_nil_iff.1 hss]
    rfl
  · rw [hs]
    show ok ((str "0.0.0.0/0").elem (ss.map .str)) = _
    rw [elem_texts]

lemma opensNarrow_item (h : rule.lookup "cidr_blocks" = some (.list (ss.map .str))) :
    opensNarrow (.dict rule) = .ok ((ss.take 1).contains "0.0.0.0/0") := by
  rw [opensNarrow,get?,h]
  cases ss with
  | nil => rfl
  | cons s ss =>
    show ok ((str "0.0.0.0/0").elem ([s].map .str)) = _
    rw [elem_texts,take_succ_cons,take_zero]

lemma opensWide_eq (h : HoldsMany rule "ipv6_cidr_blocks" (ss.map .str)) :
    opensWide (.dict rule) = .ok (ss.any everywhere.contains) := by
  rw [opensWide,get?]
  rcases h with ⟨hn,hss⟩ | hs
  · rw [hn,map_eq_nil_iff.1 hss]
    rfl
  · rw [hs]
    show ok ((ss.map str).any (·.isOneOf everywhere)) = _
    rw [any_map]
    congr 2
    funext s
    exact isOneOf_text s everywhere

lemma groupRuleOpens_eq (ha : HoldsPort rule "from_port" a) (hb : HoldsPort rule "to_port" b)
    (hr : o.ranges = [(a,if a = 0 ∧ b = 0 then 65535 else b)]) (hn : opensNarrow (.dict rule) = .ok narrow)
    (hw : opensWide (.dict rule) = .ok wide) (p : Nat) :
    groupRuleOpens p (.dict rule) = .ok (covers p 0 o.ranges && (narrow || wide)) := by
  have hc : (decide ((a : Int) ≤ p) && decide ((p : Int) ≤ if (a : Int) == 0 && (b : Int) == 0 then (65535 : Int) else b)) =
      covers p 0 o.ranges := by
    rw [hr,covers]
    by_cases hz : a = 0 ∧ b = 0
    · obtain ⟨rfl,rfl⟩ := hz
      simp
    · rw [if_neg hz,if_neg (by simpa using hz)]
      simp
  rw [groupRuleOpens,groupPort_eq ha,groupPort_eq hb,hn,hw]
  simp only [ok_bind,hc]
  cases covers p 0 o.ranges <;> cases narrow <;> rfl

lemma GroupRule.opens (h : GroupRule rule o) (p : Nat) :
    groupRuleOpens p (.dict rule) = .ok (o.seen p groupSight) := by
  obtain ⟨a,b,ha,hb,hr⟩ := h.ports
  rw [Opening.seen,groupSight,any_contains_one]
  exact groupRuleOpens_eq ha hb hr (opensNarrow_eq h.sources) (opensWide_eq h.wide) p

lemma GroupItem.opens (h : GroupItem rule o) (p : Nat) :
    groupRuleOpens p (.dict rule) = .ok (o.first.seen p groupSight) := by
  obtain ⟨a,b,ha,hb,hr⟩ := h.ports
  rw [Opening.seen,groupSight,any_contains_one]
  exact groupRuleOpens_eq ha hb hr (opensNarrow_item h.sources) (opensWide_eq (.inl ⟨h.wide,rfl⟩)) p

structure ListRule (rule : Fields) (o : Opening) : Prop where
  ports : ∃ v a w b q, Holds rule "from_port" v ∧ IsPort v a ∧ Holds rule "to_port" w ∧ IsPort w b ∧
    -- A rule for all protocols opens every port, whatever range it names.
    Holds rule "protocol" q ∧ o.ranges = [if q.display = "-1" then (1,65535) else (a,b)]
  sources : ∃ ss ws acts acts' : List String, HoldsOne rule "cidr_block" (ss.map .str) ∧ HoldsOne rule "ipv6_cidr_block" (ws.map .str) ∧
    HoldsOne rule "action" (acts.map .str) ∧ HoldsOne rule "rule_action" (acts'.map .str) ∧
    o.sources = (if acts.contains "allow" || acts'.contains "allow" then ss else []) ∧
    o.wide = if acts.contains "allow" || acts'.contains "allow" then ws else []

lemma isOnly_eq (h : HoldsOne rule key (ss.map .str)) (w : String) :
    ((rule.lookup key).getD .null).isOnly w = ss.contains w := by
  rcases h with ⟨hn,hss⟩ | ⟨v,hss,hs⟩
  · rw [hn,map_eq_nil_iff.1 hss]
    show eq .null (.list [.str w]) = false
    simp [eq,eqScalar,Value.int?]
  · obtain ⟨s,rfl,rfl⟩ := map_eq_singleton_iff.1 hss
    rw [hs,contains_cons,contains_nil,Bool.or_false,Bool.beq_comm,← beq_str]
    show eq (.list [.str s]) (.list [.str w]) = eq (.str s) (.str w)
    simp [eq,eqItems]

lemma rulePorts_eq (hv : Holds rule "from_port" v) (ha : IsPort v a)
    (hw : Holds rule "to_port" w) (hb : IsPort w b) : rulePorts (.dict rule) = .ok (some ((a : Int),(b : Int))) := by
  have hf : ∀ key v n, Holds rule key v → IsPort v n → firstInt? (.dict rule) key = .ok (some (n : Int)) := by
    intro key v n hv hn
    rw [firstInt?,getOr,hv,← intOf?_of_isPort hn]
    rfl
  rw [rulePorts,hf _ _ _ hv ha,hf _ _ _ hw hb]
  rfl

lemma listRuleOpensTo_eq {acts acts' : List String}
    (hss : HoldsOne rule key (ss.map .str)) (ha : HoldsOne rule "action" (acts.map .str))
    (ha' : HoldsOne rule "rule_action" (acts'.map .str)) (hq : Holds rule "protocol" q) (range : String) :
    listRuleOpensTo p (some (a,b)) (.dict rule) key range = .ok (ss.contains range &&
      ((acts.contains "allow" || acts'.contains "allow") &&
        (q.display == "-1" || (a : Int) != 0 && (b : Int) != 0 && (a : Int) ≤ p && (p : Int) ≤ b))) := by
  simp only [listRuleOpensTo,Value.get,getOr,ok_bind,isOnly_eq hss,isOnly_eq ha,isOnly_eq ha']
  rw [hq]
  show (if _ then _ else if _ then _ else if (q.display == "-1") then _ else _) = _
  cases ss.contains range <;> cases acts.contains "allow" <;> cases acts'.contains "allow" <;> cases q.display == "-1" <;> rfl

lemma ListRule.opens (h : ListRule rule o) (hps : 0 < p) (hp : p ≤ 65535) :
    listRuleOpens p (.dict rule) = .ok (o.seen p listSight) := by
  obtain ⟨v,a,w,b,q,hv,ha,hw,hb,hq,hr⟩ := h.ports
  obtain ⟨ss,ws,acts,acts',hss,hws,hac,hac',hs,hwd⟩ := h.sources
  have hc : (q.display == "-1" || (a : Int) != 0 && (b : Int) != 0 && (a : Int) ≤ p && (p : Int) ≤ b) =
      covers p 1 o.ranges := by
    rw [hr,covers]
    by_cases hal : q.display = "-1"
    · simp [hal]
      omega
    · rw [if_neg hal,beq_eq_false_iff_ne.2 hal]
      rw [Bool.eq_iff_iff]
      simp
      omega
  rw [listRuleOpens,rulePorts_eq hv ha hw hb,Opening.seen,listSight,any_contains_one,any_contains_one,hs,hwd,
    contains_if,contains_if]
  simp only [ok_bind,listRuleOpensTo_eq hss hac hac' hq,listRuleOpensTo_eq hws hac hac' hq,hc]
  generalize covers p 1 o.ranges = covered
  generalize (acts.contains "allow" || acts'.contains "allow") = allowed
  cases covered <;> cases allowed <;> cases ss.contains _ <;> cases ws.contains _ <;> rfl

lemma securityGroupClosed_of_found (hc : conf.lookup "ingress" = some (.list vs))
    (hf : openGroupRule? p vs = .ok found) (s : AuditState) :
    (securityGroupClosed p (.dict conf)).run' s = .ok (.passIf !found.isSome) := by
  simp [securityGroupClosed,get?,hc,elems,hf]
  cases found <;> rfl

lemma securityGroupClosed_eq (hc : Gives conf "ingress" (Holds conf "type" "ingress") rules)
    (h : Forall₂ GroupRule rules os) (p : Nat) (s : AuditState) : (securityGroupClosed p (.dict conf)).run' s =
      .ok (.passIf !os.any (·.seen p groupSight)) := by
  rcases hc with hs | ⟨hn,rfl,ht⟩
  · have ha : Forall₂ (fun r o => (listed r).items.anyM (fun part =>
        if part.isDict then groupRuleOpens p part else pure false) = .ok (Opening.seen p groupSight o))
        (rules.map .dict) os := forall₂_map_left_iff.2 (h.imp fun r o hr => (anyM_single _ _).trans (hr.opens p))
    obtain ⟨found,hf,hsn,-⟩ := findM?_eq ha
    rw [securityGroupClosed_of_found hs hf s,hsn]
  · obtain ⟨o,os,hc,hnl,rfl⟩ := forall₂_cons_left_iff.1 h
    cases hnl
    have ht : conf.lookup "type" = some (.list ["ingress"]) := ht
    simp [securityGroupClosed,get?,hn,ht,listed,first_single,ok_bind,bne,beq_str,Audit.inspect,hc.opens]

lemma securityGroupClosed_items (hc : conf.lookup "ingress" = some (.list [.list (rules.map .dict)]))
    (h : Forall₂ GroupItem rules os) (p : Nat) (s : AuditState) : (securityGroupClosed p (.dict conf)).run' s =
      .ok (.passIf !os.any (·.first.seen p groupSight)) := by
  have ha : Forall₂ (fun r (os : List Opening) => (listed r).items.anyM (fun part =>
      if part.isDict then groupRuleOpens p part else pure false) = .ok (os.any (·.first.seen p groupSight)))
      [.list (rules.map .dict)] [os] := .cons (anyM_eq (forall₂_map_left_iff.2 (h.imp fun r o hr => hr.opens p))) .nil
  obtain ⟨found,hf,hs,-⟩ := findM?_eq ha
  rw [securityGroupClosed_of_found hc hf s,hs,any_cons,any_nil,Bool.or_false]

lemma accessListClosed_eq (hc : Gives conf "ingress" ((∃ id, Holds conf "network_acl_id" id) ∧
      (conf.lookup "egress" = none ∨ Holds conf "egress" (.bool false))) rules) (hne : rules ≠ [])
    (h : Forall₂ ListRule rules os) (hps : 0 < p) (hp : p ≤ 65535)
    (s : AuditState) : (accessListClosed p (.dict conf)).run' s = .ok (.passIf !os.any (·.seen p listSight)) := by
  rcases hc with hs | ⟨hn,rfl,⟨id,hid⟩,he⟩
  · have ha : Forall₂ (fun r o => (listed r).items.anyM (listRuleOpens p) =
        .ok (Opening.seen p listSight o)) (rules.map .dict) os :=
      forall₂_map_left_iff.2 (h.imp fun r o hr => (anyM_single _ _).trans (hr.opens hps hp))
    have ht : (list (rules.map .dict)).truthy := by
      simpa [truthy] using hne
    simp [accessListClosed,Value.getD,get?,hs,ht,someListRuleOpens,elems,anyM_eq ha]
  · obtain ⟨o,os,hc,hnl,rfl⟩ := forall₂_cons_left_iff.1 h
    cases hnl
    have hid : conf.lookup "network_acl_id" = some (.list [id]) := hid
    rcases he with he | he
    · simp [accessListClosed,Value.getD,get?,hn,hid,he,truthy,hc.opens hps hp]
    · have he : conf.lookup "egress" = some (.list [.bool false]) := he
      simp [accessListClosed,Value.getD,get?,hn,hid,he,truthy,first_single,hc.opens hps hp]

/-- The rule in a list of mappings, whose values are not in lists. -/
structure ListItem (rule : Fields) : Prop where
  ports : ∃ n : Nat, rule.lookup "from_port" = some (.int n)
  sources : ∀ key ∈ ["cidr_block","ipv6_cidr_block"], rule.lookup key = none ∨ ∃ t, rule.lookup key = some (.str t)

lemma ListItem.opens (h : ListItem rule) (p : Nat) : listRuleOpens p (.dict rule) = .ok false := by
  obtain ⟨n,hn⟩ := h.ports
  have hp : rulePorts (.dict rule) = .ok none := by
    rw [rulePorts,firstInt?,getOr,hn]
    rfl
  have hc : ∀ range, ∀ key ∈ ["cidr_block","ipv6_cidr_block"],
      listRuleOpensTo p none (.dict rule) key range = .ok false := by
    intro range key hk
    have ho : ((rule.lookup key).getD .null).isOnly range = false := by
      rcases h.sources key hk with hg | ⟨t,hg⟩
      · exact isOnly_eq (.inl ⟨hg,rfl⟩ : HoldsOne rule key (List.map .str [])) range
      · rw [hg]
        show eq (.str t) (.list [.str range]) = false
        simp [eq,eqScalar,Value.int?]
    simp only [listRuleOpensTo,Value.get,getOr,ok_bind,ho]
    rfl
  simp [listRuleOpens,hp,hc]

lemma accessListClosed_items (hc : conf.lookup "ingress" = some (.list [.list (rules.map .dict)]))
    (h : ∀ rule ∈ rules, ListItem rule) (p : Nat) (s : AuditState) :
    (accessListClosed p (.dict conf)).run' s = .ok .passed := by
  have ha : (rules.map dict).anyM (listRuleOpens p) = .ok false := by
    rw [anyM_eq (forall₂_map_left_iff.2 (forall₂_same.2 fun rule hr => (h rule hr).opens p))]
    simp
  simp [accessListClosed,Value.getD,get?,hc,truthy,someListRuleOpens,elems,ok_bind,
    listed,items,ha]
  rfl

end Aws

/-- A range as it is written, or a single port. -/
def IsRange (v : Value) (r : Nat × Nat) : Prop := v = .str (toString r.1 ++ "-" ++ toString r.2) ∨ r.1 = r.2 ∧ IsPort v r.1

lemma dash_not_mem (n : Nat) : '-' ∉ (toString n).toList := not_mem_toString (by decide) n

lemma split_dash {s t : String} (hs : '-' ∉ s.toList) (ht : '-' ∉ t.toList) : split (s ++ "-" ++ t) "-" = [s,t] := by
  have hl : (s ++ "-" ++ t).toList = s.toList ++ '-' :: t.toList := by simp
  calc split (s ++ "-" ++ t) "-"
    _ = ((s ++ "-" ++ t).toList.splitOn '-').map String.ofList :=
        congrArg (List.map String.ofList) (splitAux_eq '-' [] _)
    _ = [s,t] := by
        rw [hl,splitOn_append_cons_self_of_not_mem hs,splitOn_eq_singleton ht]
        simp

namespace Google

def sight : Sight := ⟨0,["0.0.0.0/0"],[]⟩

lemma rangeCovers_eq (h : IsRange v r) (hps : 0 < p) : rangeCovers p v = .ok (r.1 ≤ p && p ≤ r.2) := by
  obtain ⟨a,b⟩ := r
  rcases h with rfl | ⟨hab,hp⟩
  · have hn : intOf? (.str (toString a ++ "-" ++ toString b)) = none := by
      rw [intOf?,toInt_text,integer,int?_range]
      rfl
    have ht : (str (toString a ++ "-" ++ toString b)).falsy = false := by
      simp [falsy,truthy]
    have hh : (str (toString a ++ "-" ++ toString b)).has "-" = .ok true := by
      show Except.ok (Text.contains _ "-") = _
      rw [Text.contains_iff.2 ⟨(toString a).toList,(toString b).toList,by simp⟩]
    simp only [rangeCovers,hn,ht,hh,ok_bind,text?,Option.map_some,
      split_dash (dash_not_mem a) (dash_not_mem b),int?_toString]
    simp
  · obtain rfl : a = b := hab
    rw [rangeCovers,intOf?_of_isPort hp]
    show Except.ok ((a : Int) != 0 && (a : Int) == p) = _
    congr 1
    rw [Bool.eq_iff_iff]
    simp
    omega

structure AllowBlock (sources : List String) (block : Fields) (o : Opening) : Prop where
  ports : ∃ vs, Holds block "ports" (.list vs) ∧ Forall₂ IsRange vs o.ranges
  sources : o.sources = sources

variable {sources : List String}

lemma AllowBlock.opens
    (hc : HoldsMany conf "source_ranges" (sources.map .str)) (h : AllowBlock sources block o) (hps : 0 < p) :
    blockOpens p (.dict conf) (.dict block) = .ok (o.seen p sight) := by
  obtain ⟨vs,hvs,hrn⟩ := h.ports
  have hp : block.lookup "ports" = some (.list [.list vs]) := hvs
  have hcv : portsCover p (.list [.list vs]) = .ok (covers p 0 o.ranges) := by
    show vs.anyM (rangeCovers p) = _
    simpa [covers] using anyM_eq (hrn.imp fun v r hr => rangeCovers_eq hr hps)
  have hh : (dict block).has "ports" = .ok true := by
    show Except.ok (Fields.has block "ports") = _
    rw [Fields.has,Fields.get?,hp]
    rfl
  simp only [blockOpens,hh,field_of_lookup hp,ok_bind,hcv,Opening.seen,sight,any_contains_one,h.sources]
  cases covers p 0 o.ranges with
  | false => rfl
  | true =>
    rcases hc with ⟨hn,hss⟩ | hs
    · obtain rfl := map_eq_nil_iff.1 hss
      have hg : (dict conf).get? "source_ranges" = none := hn
      simp [hg,falsy,truthy]
    · have hg : (dict conf).get? "source_ranges" = some (.list [.list (sources.map .str)]) := hs
      have hh : (list (sources.map .str)).has "0.0.0.0/0" = .ok (sources.contains "0.0.0.0/0") := by
        rw [← elem_texts]
        rfl
      simp [hg,first_single,hh,falsy,truthy]

lemma firewallClosed_eq {blocks : List Fields}
    (hc : conf.lookup "allow" = some (.list (blocks.map .dict))) (hs : HoldsMany conf "source_ranges" (sources.map .str))
    (h : Forall₂ (AllowBlock sources) blocks os) (hp : 0 < p) (s : AuditState) :
    (firewallClosed p (.dict conf)).run' s = .ok (.passIf !os.any (·.seen p sight)) := by
  have ha : Forall₂ (fun b o => (if b.isText then pure true else blockOpens p (.dict conf) b) =
      .ok (Opening.seen p sight o)) (blocks.map .dict) os := forall₂_map_left_iff.2 (h.imp fun b o hb => hb.opens hs hp)
  obtain ⟨found,hf,hsn,hm⟩ := findM?_eq ha
  simp [firewallClosed,get?,hc,elems,openBlock?,hf,← hsn,-pure_eq_ok]
  cases found with
  | none => rfl
  | some block =>
    obtain ⟨b,-,rfl⟩ := mem_map.1 (hm block rfl)
    rfl

end Google

namespace Azure

open Text (Pat LeftAt)

def sight : Sight := ⟨0,internet,[]⟩

def digitsPat : Pat := .rep (.cls false [.digit false] false) 1 none .greedy

def rangePat : Pat := .seq digitsPat (.seq (.char '-' false) digitsPat)

lemma portRange_eq : portRange = ⟨rangePat,0,[]⟩ := by decide +kernel

lemma run_digitsPat (hr : r = [] ∨ r.head? = some '-')
    (h : LeftAt cs i (numeral n ++ r)) (hk : k (i+(numeral n).length) spans = some x) (fuel : Nat) :
    digitsPat.run cs (fuel+1) i spans k = some x := by
  have hl := h.length_eq
  have hd : ∀ c ∈ numeral n, classHolds false [.digit false] false c := fun c hc =>
    of_isDigit _ (by decide) (isDigit_of_mem_numeral hc)
  have hs : ∀ c, r.head? = some c → classHolds false [.digit false] false c = false := by
    rcases hr with rfl | hr
    · simp
    · simp only [hr,Option.some.injEq,forall_eq']
      decide
  have hrn := runLength_eq hd hs h (by simp at hl; omega : _ ≤ cs.size - i)
  simp only [digitsPat,Pat.run,Pat.oneChar?,hrn]
  exact longestFirst_eq_some (length_pos_of_ne_nil (numeral_ne_nil n)) hk

lemma run_rangePat (h : LeftAt cs 0 (numeral a ++ '-' :: numeral b))
    (hk : ∀ j, ∃ x, k j spans = some x) (fuel : Nat) : ∃ x, rangePat.run cs (fuel+3) 0 spans k = some x := by
  have hb : LeftAt cs (0+(numeral a).length+1) (numeral b ++ []) := by simpa using h.behind
  obtain ⟨x,hx⟩ := hk (0+(numeral a).length+1+(numeral b).length)
  refine ⟨x,?_⟩
  rw [rangePat,Pat.run]
  refine run_digitsPat (.inr rfl) h ?_ (fuel+1)
  rw [Pat.run,run_char h.append]
  exact run_digitsPat (.inl rfl) hb hx fuel

lemma matches_range (a b : Nat) : portRange.matches? (toString a ++ "-" ++ toString b) := by
  have hs : (toString a ++ "-" ++ toString b).toList = numeral a ++ '-' :: numeral b := by
    simp [numeral]
  obtain ⟨fuel,hf⟩ : ∃ k, fuel ⟨rangePat,0,[]⟩ (toString a ++ "-" ++ toString b).toList.toArray = k+3 := ⟨_,rfl⟩
  have hr := run_rangePat (LeftAt.start hs) (k := fun j spans => some (j,spans))
    (fun j => ⟨(j,Array.replicate 1 none),rfl⟩) fuel
  obtain ⟨x,hx⟩ := hr
  rw [portRange_eq,matches?,matchStart?,matchWith]
  simp only [hf,hx,if_true]
  rfl

lemma not_matches_of_dash {s : String} (h : '-' ∉ s.toList) : portRange.matches? s = false := by
  rw [portRange_eq,matches?,matchStart?_of_needs (c := '-') rfl h]
  rfl

def IsPorts (v : Value) (r : Nat × Nat) : Prop := IsRange v r ∨ v = "*" ∧ r = (0,65535)

lemma rangeCovers_eq (h : IsPorts v r) (hp : p ≤ 65535) : rangeCovers p v = .ok (r.1 ≤ p && p ≤ r.2) := by
  have hpr : toString (p : Int) = toString p := rfl
  obtain ⟨a,b⟩ := r
  rcases h with (rfl | ⟨hab,hv⟩) | ⟨rfl,hr⟩
  · have ho : ∀ t : String, '-' ∉ t.toList → (toString a ++ "-" ++ toString b == t) = false := by
      rintro t ht
      refine beq_eq_false_iff_ne.2 ?_
      rintro rfl
      simp at ht
    simp only [rangeCovers,display,text?,matches_range,if_true,Value.splitOn,asText,Option.elim_some,ok_bind,
      pure_bind,split_dash (dash_not_mem a) (dash_not_mem b),integer_toString,hpr,ho _ (dash_not_mem p),
      ho "*" (by decide),Nat.cast_le]
    split
    · next hin => rw [hin]; rfl
    · next hot => rw [Bool.eq_false_iff.2 hot]; rfl
  · obtain rfl : a = b := hab
    have hd : v.display = toString a := by
      rcases hv with rfl | rfl <;> rfl
    have hs : toString a ≠ "*" := fun heq => not_mem_toString (c := '*') (by decide) a (by rw [heq]; decide)
    simp only [rangeCovers,hd,not_matches_of_dash (dash_not_mem a),hpr]
    show Except.ok (toString a == toString p || toString a == "*") = _
    rw [beq_eq_false_iff_ne.2 hs,Bool.or_false,show (toString a == toString p) = (decide (a ≤ p) && decide (p ≤ a)) by
      rw [Bool.eq_iff_iff,beq_iff_eq,toString_eq_iff]
      simp
      omega]
  · cases hr
    simp only [rangeCovers,display,text?,not_matches_of_dash (s := "*") (by decide)]
    simp [hp]

structure SecurityRule (rule : Fields) (o : Opening) : Prop where
  ports : ∃ vs ws rs rs', HoldsOne rule "destination_port_range" vs ∧ HoldsMany rule "destination_port_ranges" ws ∧
    Forall₂ IsPorts vs rs ∧ Forall₂ IsPorts ws rs' ∧ o.ranges = rs ++ rs'
  sources : ∃ acts dirs prots ss ws : List String, HoldsOne rule "access" (acts.map .str) ∧ HoldsOne rule "direction" (dirs.map .str) ∧
    HoldsOne rule "protocol" (prots.map .str) ∧ HoldsOne rule "source_address_prefix" (ss.map .str) ∧
    HoldsMany rule "source_address_prefixes" (ws.map .str) ∧
    o.sources = if acts.any (["allow"].contains <| lower ·) && dirs.any (["inbound"].contains <| lower ·) &&
      prots.any (["tcp","*"].contains <| lower ·) then (ss ++ ws).map lower else []

lemma firstIn_eq (h : HoldsOne rule key (ss.map .str)) (words : List String) :
    firstIn ((dict rule).getD key) words = .ok (ss.any (words.contains <| lower ·)) := by
  rw [firstIn,Value.getD,get?]
  rcases h with ⟨hn,hss⟩ | ⟨v,hss,hs⟩
  · rw [hn,map_eq_nil_iff.1 hss]
    rfl
  · obtain ⟨s,rfl,rfl⟩ := map_eq_singleton_iff.1 hss
    rw [hs,any_cons,any_nil,Bool.or_false]
    rfl

lemma anyM_ports (h : Forall₂ IsPorts vs rs) (hp : p ≤ 65535) :
    vs.anyM (fun r => r.listed.items.anyM (rangeCovers p)) = .ok (covers p 0 rs) := by
  refine anyM_eq (h.imp fun v r hv => ?_)
  have hl : v.listed.items = [v] := by
    rcases hv with (rfl | ⟨-,rfl | rfl⟩) | ⟨rfl,-⟩ <;> rfl
  rw [hl,anyM_single,rangeCovers_eq hv hp]
  simp

lemma rangeOpens_eq (hvs : HoldsOne rule key vs) (h : Forall₂ IsPorts vs rs) (hp : p ≤ 65535) :
    rangeOpens p ((dict rule).getD key) = .ok (covers p 0 rs) := by
  rw [← anyM_ports h hp,rangeOpens,Value.getD,get?]
  rcases hvs with ⟨hn,rfl⟩ | ⟨v,rfl,hs⟩
  · rw [hn]
    rfl
  · rw [hs,anyM_single]
    rfl

lemma rangesOpen_eq (hvs : HoldsMany rule key vs) (h : Forall₂ IsPorts vs rs) (hp : p ≤ 65535) :
    rangesOpen p ((dict rule).getD key) = .ok (covers p 0 rs) := by
  rw [← anyM_ports h hp,rangesOpen,Value.getD,get?]
  rcases hvs with ⟨hn,rfl⟩ | hs
  · rw [hn]
    rfl
  · rw [hs]
    cases vs <;> rfl

lemma fromInternet_eq (hss : HoldsOne rule "source_address_prefix" (ss.map .str))
    (hws : HoldsMany rule "source_address_prefixes" (ws.map .str)) :
    fromInternet (.dict rule) = .ok (((ss ++ ws).map lower).any internet.contains) := by
  have hm : (do
      let sources := (dict rule).getD "source_address_prefixes"
      if sources.falsy then return false
      return (← sources.first).items.any fun s => (s.text?.map lower).any internet.contains : Result Bool) =
      .ok ((ws.map lower).any internet.contains) := by
    rw [Value.getD,get?]
    rcases hws with ⟨hn,hnl⟩ | hs
    · rw [hn,map_eq_nil_iff.1 hnl]
      rfl
    · rw [hs]
      show ok ((ws.map str).any _) = _
      rw [any_map,any_map]
      rfl
  rw [fromInternet,hm,map_append,any_append,Value.getD,get?]
  rcases hss with ⟨hn,hnl⟩ | ⟨v,ho,hs⟩
  · rw [hn,map_eq_nil_iff.1 hnl]
    rfl
  · obtain ⟨s,rfl,rfl⟩ := map_eq_singleton_iff.1 ho
    rw [hs]
    show (if internet.contains (lower s) then ok true else ok _) = ok ((internet.contains (lower s) || false) || _)
    cases internet.contains (lower s) <;> rfl

lemma SecurityRule.opens (h : SecurityRule rule o) (hp : p ≤ 65535) :
    opensPort p (.dict rule) = .ok (o.seen p sight) := by
  obtain ⟨vs,ws,rs,rs',hvs,hws,hrs,hrs',hr⟩ := h.ports
  obtain ⟨acts,dirs,prots,ss,ws',ha,hd,hpr,hss,hws',hs⟩ := h.sources
  simp only [opensPort,firstIn_eq ha,firstIn_eq hd,firstIn_eq hpr,coversPort,rangeOpens_eq hvs hrs hp,
    rangesOpen_eq hws hrs' hp,fromInternet_eq hss hws',ok_bind,Opening.seen,sight,hs,hr,covers_append]
  generalize acts.any _ = act, dirs.any _ = dir, prots.any _ = prot, covers p 0 rs = one, covers p 0 rs' = more
  cases act <;> cases dir <;> cases prot <;> cases one <;> cases more <;> simp

lemma portClosed_eq (hc : Gives conf "security_rule" True rules)
    (hpl : conf.lookup "dynamic" = none) (h : Forall₂ SecurityRule rules os) (hp : p ≤ 65535) (s : AuditState) :
    (portClosed p (.dict conf)).run' s = .ok (.passIf !os.any (·.seen p sight)) := by
  have ha : Forall₂ (fun r o => (if r.isDict then opensPort p r else pure true) =
      .ok (Opening.seen p sight o)) (rules.map .dict) os := forall₂_map_left_iff.2 (h.imp fun r o hr => hr.opens hp)
  obtain ⟨found,hf,hs,hm⟩ := findM?_eq ha
  have hj : ∀ start s, (judgeRules p start (rules.map .dict)).run' s = .ok (.passIf !os.any (·.seen p sight)) := by
    intro start s
    simp [judgeRules,openRule?,hf,← hs,-pure_eq_ok]
    cases found with
    | none => rfl
    | some rule =>
      obtain ⟨r,-,rfl⟩ := mem_map.1 (hm rule rfl)
      rfl
  have hrl : ∃ start, securityRules (.dict conf) = (.list (rules.map .dict),start) := by
    rcases hc with hsm | ⟨hn,rfl,-⟩
    · exact ⟨"security_rule/",by rw [securityRules,get?,hsm]⟩
    · exact ⟨"",by rw [securityRules,get?,hn]; rfl⟩
  obtain ⟨start,hst⟩ := hrl
  simp [portClosed,hasKey,get?,hpl,hst,elems]
  split
  · exact hj start s
  · exact hj start _

lemma portClosed_items (hc : conf.lookup "security_rule" = some (.list [.list vs])) (hp : conf.lookup "dynamic" = none)
    (p : Nat) (s : AuditState) : (portClosed p (.dict conf)).run' s = .ok .unknown := by
  simp [portClosed,hasKey,get?,hp,securityRules,hc,elems]
  rfl

end Azure

/-- What the checks of a port say of rules that are written out. Of rules in blocks, a range is seen wherever its rule
stands, except in access lists if it starts at 0, and in security rules if it is open to `0.0.0.0/0`. Of rules in a list of
mappings, those of security groups are seen if the first address is meant, and no others are. -/
theorem ports_closed_unless_seen {conf : Fields} {os : List Opening} {p : Nat} (hpos : 0 < p) (hp : p ≤ 65535) (s : AuditState) :
    (∀ rules, Gives conf "ingress" (Holds conf "type" (.str "ingress")) rules → Forall₂ GroupRule rules os →
      (securityGroupClosed p (.dict conf)).run' s = .ok (.passIf !os.any (·.seen p groupSight))) ∧
    (∀ rules, Gives conf "ingress" ((∃ id, Holds conf "network_acl_id" id) ∧
        (conf.lookup "egress" = none ∨ Holds conf "egress" (.bool false))) rules → rules ≠ [] → Forall₂ ListRule rules os →
      (accessListClosed p (.dict conf)).run' s = .ok (.passIf !os.any (·.seen p listSight))) ∧
    (∀ blocks sources, conf.lookup "allow" = some (.list (blocks.map .dict)) →
        HoldsMany conf "source_ranges" (sources.map .str) → Forall₂ (Google.AllowBlock sources) blocks os →
      (Google.firewallClosed p (.dict conf)).run' s = .ok (.passIf !os.any (·.seen p Google.sight))) ∧
    (∀ rules, Gives conf "security_rule" True rules → conf.lookup "dynamic" = none → Forall₂ SecurityRule rules os →
      (portClosed p (.dict conf)).run' s = .ok (.passIf !os.any (·.seen p sight))) ∧
    (∀ rules, conf.lookup "ingress" = some (.list [.list (rules.map .dict)]) →
      (Forall₂ GroupItem rules os → (securityGroupClosed p (.dict conf)).run' s =
        .ok (.passIf !os.any (·.first.seen p groupSight))) ∧
      ((∀ rule ∈ rules, ListItem rule) → (accessListClosed p (.dict conf)).run' s = .ok .passed)) ∧
    ∀ vs, conf.lookup "security_rule" = some (.list [.list vs]) → conf.lookup "dynamic" = none →
      (portClosed p (.dict conf)).run' s = .ok .unknown :=
  ⟨fun _ hconf h => securityGroupClosed_eq hconf h p s,
    fun _ hconf hne h => accessListClosed_eq hconf hne h hpos hp s,
    fun _ _ hconf hsources h => Google.firewallClosed_eq hconf hsources h hpos s,
    fun _ hconf hplain h => portClosed_eq hconf hplain h hp s,
    fun _ hconf => ⟨fun h => securityGroupClosed_items hconf h p s,fun h => accessListClosed_items hconf h p s⟩,
    fun _ hconf hplain => portClosed_items hconf hplain p s⟩

/-- A rule that opens all ports to all addresses, written for each of the four checks. -/
def everyPort : Fields := [
  ("from_port",.list [.int 0]),("to_port",.list [.int 65535]),("cidr_blocks",.list [.list ["0.0.0.0/0"]]),
  ("cidr_block",.list ["0.0.0.0/0"]),("action",.list ["allow"]),("protocol",.list ["tcp"]),
  ("ports",.list [.list ["0-65535"]]),("access",.list ["Allow"]),("direction",.list ["Inbound"]),
  ("destination_port_range",.list ["0-65535"]),("source_address_prefix",.list ["0.0.0.0/0"])]

def everyPortBlocks : Fields := [
  ("ingress",.list [.dict everyPort]),("allow",.list [.dict everyPort]),("security_rule",.list [.dict everyPort]),
  ("source_ranges",.list [.list ["0.0.0.0/0"]])]

def everyPortItem : Fields := [
  ("from_port",.int 0),("to_port",.int 65535),("cidr_blocks",.list ["10.0.0.0/8","0.0.0.0/0"]),
  ("cidr_block","0.0.0.0/0")]

def everyPortItems : Fields := [
  ("ingress",.list [.list [.dict everyPortItem]]),("security_rule",.list [.list [.dict everyPortItem]])]

/-- Two of the four checks see the rule in a block, and none sees it in a list behind another address. -/
theorem ports_closed_unless_seen_everyPort : (securityGroupClosed 22 (.dict everyPortBlocks)).run' {given := .null} = .ok .failed ∧
    (accessListClosed 22 (.dict everyPortBlocks)).run' {given := .null} = .ok .passed ∧
    (Google.firewallClosed 22 (.dict everyPortBlocks)).run' {given := .null} = .ok .failed ∧
    (portClosed 22 (.dict everyPortBlocks)).run' {given := .null} = .ok .passed ∧
    (securityGroupClosed 22 (.dict everyPortItems)).run' {given := .null} = .ok .passed ∧
    (accessListClosed 22 (.dict everyPortItems)).run' {given := .null} = .ok .passed ∧
    (portClosed 22 (.dict everyPortItems)).run' {given := .null} = .ok .unknown := by
  have hall : Forall₂ IsRange [.str "0-65535"] [(0,65535)] := .cons (.inl rfl) .nil
  have hgroup : GroupRule everyPort ⟨[(0,65535)],["0.0.0.0/0"],[]⟩ :=
    ⟨⟨0,65535,⟨_,.inl rfl,.inl rfl⟩,⟨_,.inl rfl,.inl rfl⟩,rfl⟩,.inr rfl,.inl ⟨rfl,rfl⟩⟩
  have hlist : ListRule everyPort ⟨[(0,65535)],["0.0.0.0/0"],[]⟩ :=
    ⟨⟨_,0,_,65535,_,rfl,.inl rfl,rfl,.inl rfl,rfl,rfl⟩,
      ⟨["0.0.0.0/0"],[],["allow"],[],.inr ⟨_,rfl,rfl⟩,.inl ⟨rfl,rfl⟩,.inr ⟨_,rfl,rfl⟩,.inl ⟨rfl,rfl⟩,rfl,rfl⟩⟩
  have hallow : Google.AllowBlock ["0.0.0.0/0"] everyPort ⟨[(0,65535)],["0.0.0.0/0"],[]⟩ := ⟨⟨_,rfl,hall⟩,rfl⟩
  have hsecurity : SecurityRule everyPort ⟨[(0,65535)],["0.0.0.0/0"],[]⟩ :=
    ⟨⟨_,_,_,_,.inr ⟨_,rfl,rfl⟩,.inl ⟨rfl,rfl⟩,hall.imp fun _ _ => .inl,.nil,rfl⟩,
      ⟨["Allow"],["Inbound"],["tcp"],["0.0.0.0/0"],[],.inr ⟨_,rfl,rfl⟩,.inr ⟨_,rfl,rfl⟩,.inr ⟨_,rfl,rfl⟩,
        .inr ⟨_,rfl,rfl⟩,.inl ⟨rfl,rfl⟩,by decide +kernel⟩⟩
  have hitem : GroupItem everyPortItem ⟨[(0,65535)],["10.0.0.0/8","0.0.0.0/0"],[]⟩ :=
    ⟨⟨0,65535,⟨_,.inl rfl,.inr rfl⟩,⟨_,.inl rfl,.inr rfl⟩,rfl⟩,rfl,rfl⟩
  have hlistItem : ListItem everyPortItem := ⟨⟨0,rfl⟩,by simp [everyPortItem,List.lookup]⟩
  obtain ⟨hgroups,hlists,hfirewall,hports,-⟩ := @ports_closed_unless_seen everyPortBlocks
    [⟨[(0,65535)],["0.0.0.0/0"],[]⟩] 22 (by decide) (by decide) {given := .null}
  obtain ⟨-,-,-,-,hitems,hunknown⟩ := @ports_closed_unless_seen everyPortItems
    [⟨[(0,65535)],["10.0.0.0/8","0.0.0.0/0"],[]⟩] 22 (by decide) (by decide) {given := .null}
  exact ⟨hgroups _ (.inl rfl) (.cons hgroup .nil),hlists [everyPort] (.inl rfl) (by simp) (.cons hlist .nil),
    hfirewall _ ["0.0.0.0/0"] rfl (.inr rfl) (.cons hallow .nil),hports _ (.inl rfl) rfl (.cons hsecurity .nil),
    (hitems [everyPortItem] rfl).1 (.cons hitem .nil),(hitems [everyPortItem] rfl).2 (by simpa using hlistItem),
    hunknown _ rfl rfl⟩

end InfraAudit.Terraform
