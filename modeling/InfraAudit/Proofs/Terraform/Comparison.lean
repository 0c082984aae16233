import InfraAudit.Proofs.Expr.Literal
import InfraAudit.Proofs.Text.Matching
import InfraAudit.Proofs.Text.Occurrences
import InfraAudit.Terraform.Evaluation

namespace InfraAudit.Terraform

open List Text Pat Decimal LeftAt Expr Text.Pattern

open Text (Pat LeftAt Spans Cont)
open Expr (Relation Connective Formula)

variable {s : String} {fuel : Nat}

def operators : List (List Char) := [['=','='],['!','='],['>','='],['>'],['<','='],['<'],['&','&'],['|','|']]

def operatorPat : Pat :=
  .alt (.seq (.char '=' false) (.char '=' false)) <|
  .alt (.seq (.char '!' false) (.char '=' false)) <|
  .alt (.seq (.char '>' false) (.char '=' false)) <|
  .alt (.char '>' false) <|
  .alt (.seq (.char '<' false) (.char '=' false)) <|
  .alt (.char '<' false) <|
  .alt (.seq (.char '&' false) (.char '&' false)) (.seq (.char '|' false) (.char '|' false))

def blanksPat : Pat := .rep (.cls false [.blank false] false) 0 none .greedy

def rightPat : Pat := .seq (.group 3 (.rep (.any false) 1 none .greedy)) (.lineEnd false)

def restPat : Pat := .seq blanksPat (.seq (.group 2 operatorPat) (.seq blanksPat rightPat))

def comparisonPat : Pat := .seq (.lineStart false) (.seq (.group 1 (.rep (.any false) 1 none .lazy)) restPat)

lemma comparison_eq : comparison = ⟨comparisonPat,3,[("a",1),("operator",2),("b",3)]⟩ := by decide +kernel

lemma run_operatorPat (hop : op ∈ operators) (h : LeftAt cs i (op ++ ' ' :: r))
    (hk : k (i+op.length) spans = some x) (fuel : Nat) :
    operatorPat.run cs (fuel+10) i spans k = some x := by
  simp only [operators,mem_cons,not_mem_nil,or_false] at hop
  rcases hop with rfl | rfl | rfl | rfl | rfl | rfl | rfl | rfl
  all_goals
    have hf := getElem?_eq h
    have hs := (append (u := [_]) h).getElem?_eq
    simp only [length_cons,length_nil,Nat.zero_add,Nat.reduceAdd] at hs hk
    simp [operatorPat,run,oneChar?,hf,hs,hk,Nat.add_assoc]

lemma run_operatorPat_eq_none (hc : c ∉ ['=','!','>','<','&','|'])
    (h : LeftAt cs i (c::r)) (fuel : Nat) : operatorPat.run cs (fuel+10) i spans k = none := by
  have hf := h.getElem?_eq
  simp only [mem_cons,not_mem_nil,or_false,not_or,← ne_eq] at hc
  simp [operatorPat,run,oneChar?,hf,hc.1.symm,hc.2.1.symm,hc.2.2.1.symm,hc.2.2.2.1.symm,
    hc.2.2.2.2.1.symm,hc.2.2.2.2.2.symm]

lemma run_blanksPat {u v : List Char} (hu : ∀ c ∈ u, isBlank c)
    (hv : ∀ c, v.head? = some c → isBlank c = false) (h : LeftAt cs i (u ++ v)) (fuel : Nat) :
    blanksPat.run cs (fuel+1) i spans k = longestFirst k spans i 0 u.length := by
  have ha : classHolds false [.blank false] false = isBlank := by
    funext c
    simp [classHolds,Text.ClassItem.holds]
  have hl := h.length_eq
  have hr := runLength_eq hu hv h (by simp at hl; omega : u.length ≤ cs.size - i)
  simp only [blanksPat,run,oneChar?,ha,hr]

lemma run_leftPat (hr : r ≠ []) (hl : '\n' ∉ r) (h : LeftAt cs i r) (n fuel : Nat) :
    (group n (.rep (.any false) 1 none .lazy)).run cs (fuel+2) i spans k =
      shortestFirst (fun j spans => k j (spans.setIfInBounds n (some (i,j)))) spans i 1 (r.length - 1) := by
  have hp := length_pos_of_ne_nil hr
  simp only [run,oneChar?,runLength_any hl h]
  exact if_pos hp

lemma run_rightPat (hr : r ≠ []) (hl : '\n' ∉ r) (h : LeftAt cs i r)
    (hk : k cs.size (spans.setIfInBounds 3 (some (i,cs.size))) = some x) (fuel : Nat) :
    rightPat.run cs (fuel+3) i spans k = some x := by
  have hp := length_pos_of_ne_nil hr
  have hs : i+r.length = cs.size := by
    have hln := h.length_eq
    omega
  simp only [rightPat,run,oneChar?,runLength_any hl h]
  refine longestFirst_eq_some hp ?_
  simpa [hs] using hk

lemma run_restPat (hop : op ∈ operators) (hr : r ≠ []) (hl : '\n' ∉ r)
    (hb : ∀ c, r.head? = some c → isBlank c = false) (h : LeftAt cs i (' ' :: (op ++ ' ' :: r)))
    (hk : k cs.size ((spans.setIfInBounds 2 (some (i+1,i+1+op.length))).setIfInBounds 3
      (some (i+1+op.length+1,cs.size))) = some x) (fuel : Nat) : restPat.run cs (fuel+13) i spans k = some x := by
  have hop' : ∀ c, (op ++ ' ' :: r).head? = some c → isBlank c = false := by
    have hal : ∀ o ∈ operators, o.head?.elim false (fun c => !isBlank c) = true := by decide
    have hh := hal op hop
    intro c hc
    cases op with
    | nil => simp at hh
    | cons d op =>
      obtain rfl : d = c := by simpa using hc
      simpa using hh
  have ha : LeftAt cs (i+1) (op ++ ' ' :: r) := append (u := [' ']) h
  have hrg : LeftAt cs (i+1+op.length) (' ' :: r) := ha.append
  have hls : LeftAt cs (i+1+op.length+1) r := append (u := [' ']) hrg
  have hbl : ∀ c ∈ [' '], isBlank c = true := all_eq_true.1 (by decide)
  rw [restPat,run,run_blanksPat hbl hop' h]
  refine longestFirst_eq_some (Nat.zero_le _) ?_
  rw [run,run]
  refine run_operatorPat hop ha ?_ fuel
  rw [run,run_blanksPat hbl hb hrg]
  refine longestFirst_eq_some (Nat.zero_le _) ?_
  exact run_rightPat hr hl hls hk _

lemma run_restPat_eq_none (hc : c ∉ ['=','!','>','<','&','|']) (hb : isBlank c = false)
    (h : LeftAt cs i (c::r)) (fuel : Nat) : restPat.run cs (fuel+13) i spans k = none := by
  have hs : ∀ d, (c::r).head? = some d → isBlank d = false := by
    intro d hd
    obtain rfl : c = d := by simpa using hd
    exact hb
  rw [restPat,run,run_blanksPat (u := []) (by simp) hs h]
  simp only [length_nil,longestFirst,beq_self_eq_true,if_true]
  rw [run,run]
  exact run_operatorPat_eq_none hc h fuel

def comparisonSpans (x op size : Nat) : Spans := #[some (0,size),some (0,x),some (x+1,x+1+op),some (x+1+op+1,size)]

structure Cut (x op r : List Char) : Prop where
  left_ne : x ≠ []
  left_plain : ∀ c ∈ x, isBlank c = false ∧ c ∉ ['=','!','>','<','&','|']
  operator : op ∈ operators
  right_ne : r ≠ []
  right_line : '\n' ∉ r
  right_head : ∀ c, r.head? = some c → isBlank c = false

lemma Cut.line (h : Cut x op r) : '\n' ∉ x ++ ' ' :: (op ++ ' ' :: r) := by
  have ho : ∀ o ∈ operators, '\n' ∉ o := by decide
  have hl : '\n' ∉ x := fun hm => by
    have hb := (h.left_plain _ hm).1
    simp [isBlank] at hb
  simp [hl,ho op h.operator,h.right_line]

lemma run_comparisonPat (h : Cut x op r) (hcs : LeftAt cs 0 (x ++ ' ' :: (op ++ ' ' :: r)))
    (fuel : Nat) : comparisonPat.run cs (fuel+15) 0 (Array.replicate 4 none) (fun j spans => some (j,spans)) =
      some (cs.size,(comparisonSpans x.length op.length cs.size).setIfInBounds 0 none) := by
  have hp := length_pos_of_ne_nil h.left_ne
  have hln := hcs.length_eq
  simp only [length_append,length_cons] at hln
  rw [comparisonPat,run,run,if_pos (by simp),run,run_leftPat (by simp) h.line hcs]
  refine shortestFirst_eq_some (m := x.length) hp (by simp; omega) ?_ ?_
  · -- Inside the left side no operator follows.
    intro j hj hjx
    obtain ⟨c,t,hm,hl⟩ := hcs.inside hjx
    obtain ⟨hb,hc⟩ := h.left_plain c hm
    exact run_restPat_eq_none hc hb hl fuel
  · refine run_restPat h.operator h.right_ne h.right_line h.right_head hcs.append ?_ fuel
    simp only [Nat.zero_add]
    rfl

lemma search?_comparison (h : Cut x op r) (hs : s.toList = x ++ ' ' :: (op ++ ' ' :: r)) :
    ∃ m, comparison.search? s = some m ∧ m.named? "a" = some (String.ofList x) ∧
      m.named? "operator" = some (String.ofList op) ∧ m.named? "b" = some (String.ofList r) := by
  have hcs := start hs
  generalize hsz : s.toList.toArray = cs at hcs
  have hop : LeftAt cs (x.length+1) (op ++ ' ' :: r) := by
    simpa using append (u := [' ']) hcs.append
  have hr : LeftAt cs (x.length+1+op.length+1) (r ++ []) := by
    simpa using append (u := [' ']) hop.append
  have hln : x.length+1+op.length+1+r.length = cs.size := by
    have hln := hcs.length_eq
    simp only [length_append,length_cons] at hln
    omega
  have hm : comparison.matchWith cs 0 (fun _ => true) =
      some ⟨cs,comparisonSpans x.length op.length cs.size,[("a",1),("operator",2),("b",3)]⟩ := by
    rw [comparison_eq]
    obtain ⟨fuel,hf⟩ : ∃ k, fuel ⟨comparisonPat,3,[("a",1),("operator",2),("b",3)]⟩ cs = k+15 := ⟨_,rfl⟩
    have hrn := run_comparisonPat h hcs fuel
    simp only [matchWith,hf,if_true]
    rw [hrn]
    rfl
  have hl : (cs.extract 0 x.length).toList = x := by simpa using hcs.extract_eq
  have hmd := hop.extract_eq
  have hls := hr.extract_eq
  rw [hln] at hls
  rw [← hsz] at hm
  refine ⟨_,search?_eq_some hm,?_,?_,?_⟩
  all_goals rw [hsz]
  · show some (String.ofList (cs.extract 0 x.length).toList) = _
    rw [hl]
  · show some (String.ofList (cs.extract (x.length+1) (x.length+1+op.length)).toList) = _
    rw [hmd]
  · show some (String.ofList (cs.extract (x.length+1+op.length+1) cs.size).toList) = _
    rw [hls]

lemma closedPairs_eq_nil (h : opening ∉ cs) (i : Nat) : closedPairs opening closing i [] cs = [] := by
  induction cs generalizing i with
  | nil => rfl
  | cons c cs ih =>
    have hc : c ≠ opening := fun heq => h (by simp [heq])
    have hr := ih (fun hm => h (by simp [hm])) (i+1)
    simp [closedPairs,hc,hr]

lemma bracketPairs_eq_nil (h : opening ∉ s.toList) : bracketPairs s opening closing = [] := by
  simp [bracketPairs,closedPairs_eq_nil h]

section

variable {s : String}

variable (h : Formula s)

include h

lemma evaluateMap_formula : evaluateMap s = s := by
  have hc : bracketPairs s '\x7b' '\x7d' = [] := bracketPairs_eq_nil (h.not_mem (by decide))
  have hcl : colonsInMaps s = s := by simp [colonsInMaps,hc]
  simp [evaluateMap,hc,hcl]

lemma evaluateListAccess_formula : evaluateListAccess s = s := by
  have hs : bracketPairs s '[' ']' = [] := bracketPairs_eq_nil (h.not_mem (by decide))
  simp [evaluateListAccess,hs,listAccesses]

lemma stripDoubleQuotes_formula : stripDoubleQuotes s = s := by
  have hs : startsWith s "\"" = false := by
    rw [Bool.eq_false_iff]
    intro hp
    have hstart := isPrefixOf_iff_prefix.1 hp
    exact h.not_mem (c := '"') (by decide) (hstart.subset (by decide))
  simp [stripDoubleQuotes,hs]

lemma directives_formula (fuel : Nat) : evaluateDirectivesFuel (fuel+1) s = .ok s := by
  have hn : directive.tree.needs '%' := by decide +kernel
  have hnn := Text.Pattern.occursIn_of_needs hn (h.not_mem (by decide))
  simp [evaluateDirectivesFuel,hnn]

lemma unwrapInterpolation_formula : unwrapInterpolation s = s := by
  have hn : wholeInterpolation.tree.needs '$' := by decide +kernel
  have hnn := Text.Pattern.matchStart?_of_needs hn (h.not_mem (by decide))
  simp [unwrapInterpolation,hnn]

lemma conditional_formula (fuel : Nat) : evaluateConditionalFuel (fuel+1) s = .ok s := by
  have hn : conditional.tree.needs '?' := by decide +kernel
  have hnn := Text.Pattern.matchStart?_of_needs hn (h.not_mem (by decide))
  simp [evaluateConditionalFuel,hnn]

lemma contains_underscores : Text.contains s "__" = false :=
  contains_eq_false (c := '_') (by decide) (h.not_mem (by decide))

lemma evaluateText_eq_ok (hv : Expr.evaluate s = .ok (.data v))
    (ht : v.text? = none) : evaluateText s = .ok (.data v) := by
  simp only [evaluateText,contains_underscores h,hv]
  cases v with
  | str t => simp [Value.text?] at ht
  | _ => rfl

lemma evaluateText_eq_error (he : Expr.evaluate s = .error e) : evaluateText s = .error e := by
  simp only [evaluateText,contains_underscores h,he]
  rfl

lemma evaluateText_quoted : evaluateText ("\"" ++ s ++ "\"") = .ok (.data (.str s)) := by
  have hu : Text.contains ("\"" ++ s ++ "\"") "__" = false := by
    refine contains_eq_false (c := '_') (by decide) ?_
    have hn : '_' ∉ s.toList := h.not_mem (by decide)
    simp [hn]
  have hz : Text.replace s "\x00" "\\0" = s := replace_eq_self _ (c := '\x00') (by decide) (h.not_mem (by decide))
  simp only [evaluateText,hu,evaluate_quoted h]
  show Except.ok (Expr.Datum.data (.str (Text.replace s "\x00" "\\0"))) = _
  rw [hz]

end

lemma tryEvaluate_numeral (n : Nat) : tryEvaluate (.str (toString n)) = .data (.int n) := by
  have h : evaluateValue (.str (toString n)) = .ok (.data (.int n)) :=
    evaluateText_eq_ok (.numeral n) (evaluate_numeral n) rfl
  rw [tryEvaluate,h]

lemma tryEvaluate_relation (q : Relation) (c d : Nat) :
    tryEvaluate (.str (q.text c d)) = .data (.bool (q.holds c d)) := by
  have h : evaluateValue (.str (q.text c d)) = .ok (.data (.bool (q.holds c d))) :=
    evaluateText_eq_ok (.relation q c d) (evaluate_relation q c d) rfl
  rw [tryEvaluate,h]

lemma tryEvaluate_connective (o : Connective) (q : Relation) (b c d : Nat) :
    tryEvaluate (.str (o.text (toString b) (q.text c d))) = .data (.str (o.text (toString b) (q.text c d))) := by
  have hf := (Formula.numeral b).connective o (.relation q c d)
  have h : evaluateValue (.str (o.text (toString b) (q.text c d))) = bad :=
    evaluateText_eq_error hf (evaluate_connective o q b c d)
  have hd : (Value.str (o.text (toString b) (q.text c d))).display = o.text (toString b) (q.text c d) := rfl
  rw [tryEvaluate,h,bad,hd,evaluateText_quoted hf]
  rfl

lemma tryEvaluate_int (n : Nat) : tryEvaluate (.int n) = .data (.str (toString n)) := by
  have h : evaluateValue (.int n) = .error .wrongKind := rfl
  have hd : (Value.int n).display = toString n := rfl
  rw [tryEvaluate,h,hd,evaluateText_quoted (.numeral n)]
  rfl

lemma evaluateFuel_of_data (hl : s.length ≤ longestEvaluated)
    (hw : tryEvaluate (.str s) = .data w) (ht : w.text? = none) (fuel : Nat) (keepMarks : Bool) :
    evaluateFuel (fuel+1) (.str s) keepMarks = .ok w := by
  have hs : ¬ longestEvaluated < ((Value.str s).text?.getD "").length := Nat.not_lt.2 hl
  simp only [evaluateFuel,hs,hw]
  cases w with
  | str t => simp [Value.text?] at ht
  | _ => rfl

lemma evaluateFuel_formula (h : Formula s) (hln : s.length ≤ longestEvaluated)
    (ht : tryEvaluate (.str s) = .data (.str s)) {n : Nat}
    (hc : evaluateCompareFuel (fuel+1) (.str s) = .ok (.int n)) :
    evaluateFuel (fuel+2) (.str s) true = .ok (.str (toString n)) := by
  have hs : ¬ longestEvaluated < ((Value.str s).text?.getD "").length := Nat.not_lt.2 hln
  have hl : Text.replace s "\n" "" = s := replace_eq_self _ (c := '\n') (by decide) (h.not_mem (by decide))
  have hcm : Text.replace s ",," "," = s := replace_eq_self _ (c := ',') (by decide) (h.not_mem (by decide))
  simp only [evaluateFuel,hs,ht,hl,hcm,if_true,if_false,evaluateMap_formula h,
    evaluateListAccess_formula h,stripDoubleQuotes_formula h,directives_formula h,unwrapInterpolation_formula h,
    conditional_formula h,bind,Except.bind,hc,evaluateJsonTypes,tryEvaluate_int]
  rfl

/-- The number that a connective makes of a number and of the truth of what follows. -/
def connected (o : Connective) (b : Nat) (holds : Bool) : Nat :=
  match o with
  | .both => if b = 0 then 0 else holds.toNat
  | .either => if b = 0 then holds.toNat else b

lemma applyBinaryOp_connective (o : Connective) (b : Nat) (holds : Bool) :
    applyBinaryOp (.int b) (.bool holds) o.symbol = .ok (.int (connected o b holds)) := by
  have hc : convertLike (.int b) (.bool holds) = .ok (.int holds.toNat) := by
    cases holds <;> rfl
  have ho : operate o.symbol (.int b) (.int holds.toNat) = .ok (.int (connected o b holds)) := by
    cases b with
    | zero => cases o <;> rfl
    | succ b => cases o <;> rfl
  simp only [applyBinaryOp,sameKind,bind,Except.bind,hc,ho]
  rfl

lemma applyBinaryOp_relation (p : Relation) (a n : Nat) :
    applyBinaryOp (.int a) (.str (toString n)) p.symbol = .ok (.bool (p.holds a n)) := by
  have hc : convertLike (.int a) (.str (toString n)) = .ok (.int n) := by
    rw [convertLike,toInt_text,integer_toString]
    rfl
  have hcm := compareValues_int p a n
  have ho : operate p.symbol (.int a) (.int n) = .ok (.bool (p.holds a n)) := by
    cases p <;> simp only [operate,Relation.symbol,Relation.op,bind,Except.bind] at hcm ⊢ <;>
      simp only [hcm] <;> rfl
  simp only [applyBinaryOp,sameKind,bind,Except.bind,hc,ho]
  rfl

lemma evaluateCompareFuel_of_cut {x op r : String} (h : Cut x.toList op.toList r.toList)
    (hs : s = x ++ " " ++ op ++ " " ++ r) (hf : Formula s)
    (hl : evaluateFuel fuel (.str x) true = .ok v) (hr : evaluateFuel fuel (.str r) true = .ok w)
    (hap : applyBinaryOp v w op = .ok u) : evaluateCompareFuel (fuel+1) (.str s) = .ok u := by
  have hfr : Text.contains s "for" = false := contains_eq_false (c := 'f') (by decide) (hf.not_mem (by decide))
  obtain ⟨m,hm,ha,ho,hb⟩ := search?_comparison h (s := s) (by simp [hs])
  simp only [String.ofList_toList] at ha ho hb
  simp only [evaluateCompareFuel,Value.text?,hfr,hm,ha,ho,hb,bind,Except.bind,hl,hr,hap]
  rfl

lemma cut_numeral (n : Nat) {op r : String} (hop : op.toList ∈ operators) (hr : Formula r) :
    Cut (toString n).toList op.toList r.toList := by
  obtain ⟨c,hh,hc⟩ := hr.head
  refine ⟨?_,?_,hop,?_,hr.not_mem (by decide),?_⟩
  · rw [toList_toString]
    exact numeral_ne_nil n
  · intro d hd
    rw [toList_toString] at hd
    have hp := of_isDigit
      (fun d => !(isBlank d || ['=','!','>','<','&','|'].contains d)) (by decide)
      (isDigit_of_mem_numeral hd)
    simpa using hp
  · intro hn
    simp [hn] at hh
  · intro d hd
    obtain rfl : c = d := by simpa [hh] using hd
    simpa using of_isDigit (fun c => !isBlank c) (by decide) hc

lemma evaluateFuel_connective (o : Connective) (q : Relation) {b c d : Nat}
    (hl : (o.text (toString b) (q.text c d)).length ≤ longestEvaluated) (fuel : Nat) :
    evaluateFuel (fuel+3) (.str (o.text (toString b) (q.text c d))) true =
      .ok (.str (toString (connected o b (q.holds c d)))) := by
  have hf := (Formula.numeral b).connective o (.relation q c d)
  have hp := hl
  simp only [Connective.text,String.length_append] at hp
  have hop : o.symbol.toList ∈ operators := by cases o <;> decide
  refine evaluateFuel_formula hf hl (tryEvaluate_connective o q b c d) ?_
  refine evaluateCompareFuel_of_cut (cut_numeral b hop (.relation q c d)) rfl hf ?_ ?_
    (applyBinaryOp_connective o b (q.holds c d))
  · exact evaluateFuel_of_data (by omega) (tryEvaluate_numeral b) rfl fuel true
  · exact evaluateFuel_of_data (by omega) (tryEvaluate_relation q c d) rfl fuel true

/-- When cutting at the comparison gives what cutting at the connective would give. -/
def keepsPrecedence (o : Connective) (p : Relation) (a b : Nat) (holds : Bool) : Prop :=
  match o with
  | .both => if holds then b = 0 ∨ p.holds a 1 = p.holds a b else p.holds a 0 = false
  | .either => holds → p.holds a (if b = 0 then 1 else b)

lemma keepsPrecedence_iff (o : Connective) (p : Relation) (a b : Nat) (holds : Bool) :
    p.holds a (connected o b holds) = o.holds (p.holds a b) holds ↔ keepsPrecedence o p a b holds := by
  by_cases hb : b = 0
  · subst hb
    cases o <;> cases holds <;> simp [connected,keepsPrecedence,Connective.holds]
  · cases o <;> cases holds <;> simp [connected,keepsPrecedence,Connective.holds,hb]

/-- The first comparison takes all that follows as its right side: its left number is compared with
the number that the connective makes of the right one and the second comparison. -/
theorem evaluateCompare_connective (o : Connective) (p q : Relation) (a b c d : Nat)
    (hlen : (o.text (p.text a b) (q.text c d)).length ≤ longestEvaluated) :
    evaluateCompare (.str (o.text (p.text a b) (q.text c d))) = .ok (.bool (p.holds a (connected o b (q.holds c d)))) ∧
      (p.holds a (connected o b (q.holds c d)) = o.holds (p.holds a b) (q.holds c d) ↔
        keepsPrecedence o p a b (q.holds c d)) := by
  refine ⟨?_,keepsPrecedence_iff o p a b (q.holds c d)⟩
  have hright := (Formula.numeral b).connective o (.relation q c d)
  have hformula := (Formula.relation p a b).connective o (.relation q c d)
  have hop : p.symbol.toList ∈ operators := by cases p <;> decide
  have htext : o.text (p.text a b) (q.text c d) =
      toString a ++ " " ++ p.symbol ++ " " ++ o.text (toString b) (q.text c d) := by
    simp [Connective.text,Relation.text,String.append_assoc]
  have hparts := hlen
  simp only [htext,String.length_append] at hparts
  refine evaluateCompareFuel_of_cut (cut_numeral a hop hright) htext hformula ?_ ?_
    (applyBinaryOp_relation p a (connected o b (q.holds c d)))
  · exact evaluateFuel_of_data (by omega) (tryEvaluate_numeral a) rfl _ true
  · exact evaluateFuel_connective o q (by omega) _

theorem evaluateCompare_connective_two_true :
    ("1 < 2 && 3 < 4".length ≤ longestEvaluated ∧ "0 >= 1 || 1 == 1".length ≤ longestEvaluated) ∧
      evaluateCompare (.str "1 < 2 && 3 < 4") = .ok (.bool false) ∧
      evaluateCompare (.str "0 >= 1 || 1 == 1") = .ok (.bool false) ∧
      Connective.holds .both (Relation.holds .lt 1 2) (Relation.holds .lt 3 4) = true ∧
      Connective.holds .either (Relation.holds .ge 0 1) (Relation.holds .eq 1 1) = true := by
  have hboth := evaluateCompare_connective .both .lt .lt 1 2 3 4 (by decide)
  have heither := evaluateCompare_connective .either .ge .eq 0 1 1 1 (by decide)
  exact ⟨⟨by decide,by decide⟩,hboth.1,heither.1,by decide,by decide⟩

end InfraAudit.Terraform
