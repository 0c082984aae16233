import InfraAudit.Proofs.Expr.Literal
import InfraAudit.Proofs.Text.Matching
import InfraAudit.Proofs.Text.Occurrences
import InfraAudit.Terraform.Evaluation
import Mathlib.Data.List.TakeWhile

namespace InfraAudit.Text

open List

variable {x s : String}

lemma mem_strip_iff (hc : isBlank c = false) (s : String) : c ∈ (strip s).toList ↔ c ∈ s.toList := by
  obtain ⟨a,b,hs,ha,hb⟩ := strip_parts s
  have hna : c ∉ a := fun hm => by simp [ha c hm] at hc
  have hnb : c ∉ b := fun hm => by simp [hb c hm] at hc
  simp [hs,hna,hnb]

end InfraAudit.Text

namespace InfraAudit.Terraform

open Text (Pat LeftAt Spans Cont)
open List Text Pat

/-- The second result is the first, unless that one gave up for want of depth. -/
def Kept {α : Type} (x y : Result α) : Prop := x ≠ .error .tooDeep → y = x

namespace Kept

variable {α β : Type}

lemma refl (x : Result α) : Kept x x := fun _ => rfl

lemma bind {x y : Result α} {f g : α → Result β} (hxy : Kept x y) (hfg : ∀ a, Kept (f a) (g a)) :
    Kept (x >>= f) (y >>= g) := by
  intro hb
  cases x with
  | error e =>
    have hx : (Except.error e : Result α) ≠ .error .tooDeep := by
      intro h
      cases h
      exact hb rfl
    rw [hxy hx]
    rfl
  | ok a =>
    rw [hxy (by simp)]
    exact hfg a hb

end Kept

lemma kept_succ (fuel : Nat) :
    (∀ v keepMarks, Kept (evaluateFuel fuel v keepMarks) (evaluateFuel (fuel+1) v keepMarks)) ∧
    (∀ s, Kept (evaluateDirectivesFuel fuel s) (evaluateDirectivesFuel (fuel+1) s)) ∧
    (∀ parts, Kept (evaluateParts fuel parts) (evaluateParts (fuel+1) parts)) ∧
    (∀ s, Kept (evaluateConditionalFuel fuel s) (evaluateConditionalFuel (fuel+1) s)) ∧
    ∀ v, Kept (evaluateCompareFuel fuel v) (evaluateCompareFuel (fuel+1) v) := by
  induction fuel with
  | zero =>
    refine ⟨?_,?_,?_,?_,?_⟩
    · intro v keepMarks h
      exact absurd (by rw [evaluateFuel]) h
    · intro s h
      exact absurd (by rw [evaluateDirectivesFuel]) h
    · intro parts h
      cases parts with
      | nil => rw [evaluateParts,evaluateParts]
      | cons part parts => exact absurd (by rw [evaluateParts]; simp) h
    · intro s h
      exact absurd (by rw [evaluateConditionalFuel]) h
    · intro v h
      exact absurd (by rw [evaluateCompareFuel]) h
  | succ fuel ih =>
    obtain ⟨hv,hd,hp,hc,hcm⟩ := ih
    refine ⟨?_,?_,?_,?_,?_⟩
    · intro v keepMarks
      rw [evaluateFuel,evaluateFuel]
      split
      · exact .refl _
      split
      · refine (hd _).bind fun e => (hc _).bind fun e => (hcm _).bind fun e => .refl _
      · exact .refl _
      · exact .refl _
    · intro s
      rw [evaluateDirectivesFuel,evaluateDirectivesFuel]
      split
      · exact .refl _
      · exact hp _
    · intro parts
      cases parts with
      | nil => rw [evaluateParts,evaluateParts]; exact .refl _
      | cons part parts =>
        rw [evaluateParts,evaluateParts]
        exact (hv _ _).bind fun v => (hp parts).bind fun s => .refl _
    · intro s
      rw [evaluateConditionalFuel,evaluateConditionalFuel]
      split
      · exact .refl _
      · exact (hv _ _).bind fun test => (hv _ _).bind fun v => hc _
    · intro v
      rw [evaluateCompareFuel,evaluateCompareFuel]
      split
      · exact .refl _
      split
      · exact .refl _
      split
      · exact .refl _
      split
      · next a b op _ _ _ =>
        have ho : Kept
            (do
              let x ← evaluateFuel fuel (.str a) true
              let y ← evaluateFuel fuel (.str b) true
              applyBinaryOp x y op)
            (do
              let x ← evaluateFuel (fuel+1) (.str a) true
              let y ← evaluateFuel (fuel+1) (.str b) true
              applyBinaryOp x y op) := (hv _ _).bind fun x => (hv _ _).bind fun y => .refl _
        intro h
        rw [ho]
        intro hdp
        exact h (by rw [hdp])
      · exact .refl _

lemma evaluateFuel_of_le (hle : fuel ≤ more)
    (h : evaluateFuel fuel v keepMarks = .ok w) : evaluateFuel more v keepMarks = .ok w := by
  induction hle with
  | refl => exact h
  | step _ ih => rw [(kept_succ _).1 _ _ (by simp [ih]),ih]

def othersPat (c : Char) : Pat := .rep (.cls true [.single c] false) 1 none .greedy

def branchesPat : Pat := .seq (.group 2 (othersPat ':')) (.seq (.char ':' false) (.group 3 (othersPat ':')))

def conditionalPat : Pat := .seq (.group 1 (othersPat '?')) (.seq (.char '?' false) branchesPat)

lemma conditional_eq : conditional = ⟨conditionalPat,3,[]⟩ := by decide +kernel

lemma run_othersPat (hu : c ∉ u) (hr : ∀ d, r.head? = some d → d = c) (h : LeftAt cs i (u ++ r)) (n fuel : Nat) :
    (group n (othersPat c)).run cs (fuel+2) i spans k =
      longestFirst (fun j spans => k j (spans.setIfInBounds n (some (i,j)))) spans i 1 u.length := by
  have ha : classHolds true [.single c] false = (· != c) := by
    funext d
    simp [classHolds,ClassItem.holds,bne]
  have hl := h.length_eq
  have hal : ∀ d ∈ u, (d != c) := by
    intro d hd
    have hne : d ≠ c := fun heq => hu (heq ▸ hd)
    simpa using hne
  have hrn := runLength_eq hal (v := r) (by simpa using hr) h
    (by simp at hl; omega : u.length ≤ cs.size - i)
  simp only [othersPat,run,oneChar?,ha,hrn]

lemma run_upTo (hu : c ∉ u) (hne : u ≠ []) (h : LeftAt cs i (u ++ c :: r)) (p : Pat) (n fuel : Nat) :
    (seq (.group n (othersPat c)) (.seq (.char c false) p)).run cs (fuel+3) i spans k =
      p.run cs (fuel+1) (i+u.length+1) (spans.setIfInBounds n (some (i,i+u.length))) k := by
  have hp := length_pos_of_ne_nil hne
  rw [run,run_othersPat hu (by simp) h]
  cases hr : p.run cs (fuel+1) (i+u.length+1) (spans.setIfInBounds n (some (i,i+u.length))) k with
  | some x =>
    refine longestFirst_eq_some hp ?_
    rw [run,run_char h.append,hr]
  | none =>
    refine longestFirst_eq_none fun j _ hj => ?_
    rcases Nat.eq_or_lt_of_le hj with rfl | hlt
    · rw [run,run_char h.append,hr]
    · obtain ⟨d,t,hm,hl⟩ := h.inside hlt
      have hd : d ≠ c := fun heq => hu (heq ▸ hm)
      rw [run,run_char_eq_none hd hl]

/-- A test, the branch before the first colon, the one behind it, and the rest from the second colon
on. -/
structure Choice (test yes no rest : List Char) : Prop where
  test_ne : test ≠ []
  test_plain : '?' ∉ test
  yes_ne : yes ≠ []
  yes_plain : ':' ∉ yes
  no_plain : ':' ∉ no
  rest_head : ∀ c, rest.head? = some c → c = ':'

namespace Choice

variable {s : String}

def whole (test yes no rest : List Char) : List Char := test ++ '?' :: (yes ++ ':' :: (no ++ rest))

def spans (test yes no : Nat) : Spans :=
  #[some (0,test+1+yes+1+no),some (0,test),some (test+1,test+1+yes),some (test+1+yes+1,test+1+yes+1+no)]

lemma run_conditionalPat (h : Choice test yes no rest)
    (hcs : LeftAt cs 0 (whole test yes no rest)) (spans : Spans) (k : Cont) (fuel : Nat) :
    conditionalPat.run cs (fuel+7) 0 spans k =
      longestFirst (fun j spans => k j (spans.setIfInBounds 3 (some (test.length+1+yes.length+1,j))))
        ((spans.setIfInBounds 1 (some (0,test.length))).setIfInBounds 2
          (some (test.length+1,test.length+1+yes.length))) (test.length+1+yes.length+1) 1 no.length := by
  rw [conditionalPat,run_upTo h.test_plain h.test_ne hcs,branchesPat,
    run_upTo h.yes_plain h.yes_ne hcs.behind,run_othersPat h.no_plain h.rest_head hcs.behind.behind]
  simp only [Nat.zero_add]

lemma matchStart?_of_empty (h : Choice test yes [] rest) (hs : s.toList = whole test yes [] rest) :
    conditional.matchStart? s = none := by
  obtain ⟨fuel,hf⟩ : ∃ k, Pattern.fuel ⟨conditionalPat,3,[]⟩ s.toList.toArray = k+7 := ⟨_,rfl⟩
  rw [conditional_eq,Pattern.matchStart?,Pattern.matchWith]
  simp only [hf,h.run_conditionalPat (LeftAt.start hs)]
  rfl

section

variable (h : Choice test yes no rest) (hno : no ≠ []) (hs : s.toList = whole test yes no rest)

include h hno hs

lemma matchStart?_eq :
    conditional.matchStart? s = some ⟨s.toList.toArray,spans test.length yes.length no.length,[]⟩ := by
  obtain ⟨fuel,hf⟩ : ∃ k, Pattern.fuel ⟨conditionalPat,3,[]⟩ s.toList.toArray = k+7 := ⟨_,rfl⟩
  have hp := length_pos_of_ne_nil hno
  rw [conditional_eq,Pattern.matchStart?,Pattern.matchWith]
  simp only [hf,h.run_conditionalPat (LeftAt.start hs),if_true]
  rw [longestFirst_eq_some hp rfl]
  rfl

lemma exists_matchStart? : ∃ m, conditional.matchStart? s = some m ∧ m.whole = String.ofList (whole test yes no []) ∧
      m.group? 1 = some (String.ofList test) ∧ m.group? 2 = some (String.ofList yes) ∧
      m.group? 3 = some (String.ofList no) := by
  have hcs := LeftAt.start hs
  have hp : whole test yes no rest = whole test yes no [] ++ rest := by simp [whole]
  have hw := (hp ▸ hcs).extract_eq
  have ht := hcs.extract_eq
  have hy := hcs.behind.extract_eq
  have hn := hcs.behind.behind.extract_eq
  have hl : (whole test yes no []).length = test.length+1+yes.length+1+no.length := by
    simp only [whole,length_append,length_cons,length_nil]
    omega
  rw [hl] at hw
  simp only [Nat.zero_add] at hw ht hy hn
  refine ⟨_,h.matchStart?_eq hno hs,?_,?_,?_,?_⟩
  · exact congrArg String.ofList hw
  · exact congrArg (some ∘ String.ofList) ht
  · exact congrArg (some ∘ String.ofList) hy
  · exact congrArg (some ∘ String.ofList) hn

end

lemma ofParts (test_ne : test ≠ []) (test_plain : '?' ∉ test) (yes_ne : yes ≠ []) (yes_plain : ':' ∉ yes)
    (t : List Char) : Choice test yes (t.takeWhile (· != ':')) (t.dropWhile (· != ':')) where
  test_ne := test_ne
  test_plain := test_plain
  yes_ne := yes_ne
  yes_plain := yes_plain
  no_plain := by
    intro hm
    have hn := all_takeWhile (l := t) (p := (· != ':'))
    simpa using all_eq_true.1 hn _ hm
  rest_head := by
    intro c hc
    have hn := head?_dropWhile_not (· != ':') t
    rw [hc] at hn
    simpa using hn

lemma evaluateConditionalFuel_eq (h : Choice test yes no rest) (hno : no ≠ [])
    (hs : s.toList = whole test yes no rest) (hr : '?' ∉ rest)
    (ht : evaluateFuel (fuel+1) (.str (String.ofList test)) true = .ok t) (htr : (truthOf t).truthy)
    (hv : evaluateFuel (fuel+1) (.str (String.ofList yes)) true = .ok v) (hp : '?' ∉ v.display.toList) :
    evaluateConditionalFuel (fuel+2) s = .ok (Text.strip v.display ++ String.ofList rest) := by
  obtain ⟨m,hm,hw,hts,hy,-⟩ := h.exists_matchStart? hno hs
  have hrp : Text.replace s m.whole (Text.strip v.display) = Text.strip v.display ++ String.ofList rest := by
    have hmm : '?' ∈ whole test yes no [] := by simp [whole]
    have hpr : s.toList = whole test yes no [] ++ rest := by simp [hs,whole]
    have he : (whole test yes no []).isEmpty = false := by simp [whole]
    rw [Text.replace,hw,String.toList_ofList,hpr,Text.replaceChars,he,if_neg (by decide),
      Text.replaceAux_append _ _ (by simp [whole]),Text.replaceAux_eq_self _ hmm hr]
    simp
  have hst : '?' ∉ (Text.strip v.display).toList := by rwa [Text.mem_strip_iff (by decide)]
  have hn : conditional.tree.needs '?' := by decide +kernel
  have hnn := Pattern.matchStart?_of_needs hn
    (s := Text.strip v.display ++ String.ofList rest) (by simp [hst,hr])
  rw [evaluateConditionalFuel,hm]
  simp only [hts,hy,Option.getD_some,ht,hv,htr,if_true,bind,Except.bind,hrp]
  rw [evaluateConditionalFuel,hnn]

end Choice

lemma underscores_behind (hu : '_' ∉ u) (h : ['_','_'] <:+: u ++ l) : ['_','_'] <:+: l := by
  induction u with
  | nil => exact h
  | cons c u ih =>
    rcases infix_cons_iff.1 h with hp | hr
    · have hc : '_' = c := by simpa using (cons_prefix_cons.1 hp).1
      exact absurd (hc ▸ mem_cons_self) hu
    · exact ih (fun hm => hu (by simp [hm])) hr

lemma contains_between (hu : '_' ∉ u) (hv : '_' ∉ v)
    (hx : Text.contains x "__" = false) (hs : s.toList = u ++ (x.toList ++ v)) : Text.contains s "__" = false := by
  rw [Bool.eq_false_iff,ne_eq,contains_iff] at hx ⊢
  intro h
  rw [hs] at h
  have hr : ['_','_'] <:+: x.toList ++ v := underscores_behind hu h
  have hl : ['_','_'] <:+: v.reverse ++ x.toList.reverse := by
    simpa using reverse_infix.2 hr
  exact hx (List.reverse_infix.1 (underscores_behind (by simpa using hv) hl))

lemma tryEvaluate_between_blanks (hq : '"' ∉ x.toList) (hu : Text.contains x "__" = false)
    (h : Expr.evaluate ("\"" ++ x ++ "\"") = .ok d) :
    ∃ t, tryEvaluate (.str ("\"" ++ x ++ "\"")) = .data (.str t) ∧
      tryEvaluate (.str (" \"" ++ x ++ "\" ")) = .data (.str t) := by
  obtain ⟨t,rfl,hp⟩ := Expr.evaluate_between_blanks hq h
  have ht : ∀ s : String, Text.contains s "__" = false → Expr.evaluate s = .ok (.data (.str t)) →
      tryEvaluate (.str s) = .data (.str (replace t "\x00" "\\0")) := by
    intro s hs he
    have hv : evaluateValue (.str s) = .ok (.data (.str (replace t "\x00" "\\0"))) := by
      show evaluateText s = _
      simp only [evaluateText,hs,he]
      rfl
    rw [tryEvaluate,hv]
  refine ⟨_,ht _ ?_ h,ht _ ?_ hp⟩
  · exact contains_between (u := ['"']) (v := ['"']) (by decide) (by decide) hu (by simp)
  · exact contains_between (u := [' ','"']) (v := ['"',' ']) (by decide) (by decide) hu (by simp)

lemma evaluateFuel_between_blanks (hq : '"' ∉ x.toList) (hu : Text.contains x "__" = false)
    (h : Expr.evaluate ("\"" ++ x ++ "\"") = .ok d) (hl : x.length+4 ≤ longestEvaluated) (fuel : Nat) (keepMarks : Bool) :
    evaluateFuel fuel (.str (" \"" ++ x ++ "\" ")) keepMarks = evaluateFuel fuel (.str ("\"" ++ x ++ "\"")) keepMarks := by
  obtain ⟨t,hb,hp⟩ := tryEvaluate_between_blanks hq hu h
  have hsh : ∀ s : String, s.length ≤ x.length+4 → ¬ longestEvaluated < ((Value.str s).text?.getD "").length := by
    intro s hs
    show ¬ longestEvaluated < s.length
    omega
  cases fuel with
  | zero => rw [evaluateFuel,evaluateFuel]
  | succ fuel =>
    rw [evaluateFuel,evaluateFuel,if_neg (hsh _ ?_),if_neg (hsh _ ?_),hb,hp]
    · simp [String.length]
    · simp [String.length]

def isText (r : Result Value) (s : String) : Bool :=
  match r with
  | .ok (.str t) => t == s
  | _ => false

lemma eq_of_isText (h : isText r s) : r = .ok (.str s) := by
  unfold isText at h
  split at h
  · next t => rw [beq_iff_eq.1 h]
  · cases h

def choice (test x y : String) : String := test ++ " ? \"" ++ x ++ "\" : \"" ++ y ++ "\""

/-- Neither branch has a colon, and the first is not too long to be evaluated between blanks. -/
def Uncut (x y : String) : Prop := ':' ∉ x.toList ∧ ':' ∉ y.toList ∧ x.length+4 ≤ longestEvaluated

/-- A branch that can stand in quotes and holds no conditional. -/
structure Quotable (x : String) : Prop where
  quote : '"' ∉ x.toList
  question : '?' ∉ x.toList

/-- A branch that is the value of its quoted form, read as an expression. -/
structure SelfValued (x : String) : Prop extends Quotable x where
  underscores : Text.contains x "__" = false
  readable : ∃ d, Expr.evaluate ("\"" ++ x ++ "\"") = .ok d
  value : evaluate (.str ("\"" ++ x ++ "\"")) = .ok (.str x)

def upToColon (x : String) : String := String.ofList (x.toList.takeWhile (· != ':'))

def wholeInterpolationPat : Pat :=
  .seq (.lineStart false) (.seq (.char '$' false) (.seq (.char '\x7b' false)
    (.seq (.group 1 (.rep (.any false) 0 none .greedy)) (.seq (.char '\x7d' false) (.lineEnd false)))))

lemma wholeInterpolation_eq : wholeInterpolation = ⟨wholeInterpolationPat,1,[]⟩ := by decide +kernel

lemma unwrapInterpolation_eq_self (hs : s.toList = c :: r) (hc : c ≠ '$') : unwrapInterpolation s = s := by
  obtain ⟨fuel,hf⟩ : ∃ k, Pattern.fuel ⟨wholeInterpolationPat,1,[]⟩ s.toList.toArray = k+3 := ⟨_,rfl⟩
  have hn : wholeInterpolation.matchStart? s = none := by
    rw [wholeInterpolation_eq,Pattern.matchStart?,Pattern.matchWith]
    simp only [hf]
    simp [wholeInterpolationPat,run,oneChar?,(LeftAt.start hs).getElem?_eq,hc.symm]
  simp [unwrapInterpolation,hn]

lemma evaluate_test (ht : test = "true" ∨ test = "false") :
    evaluate (.str (test ++ " ")) = .ok (.str (test ++ " ")) ∧ (truthOf (.str (test ++ " "))).truthy := by
  rcases ht with rfl | rfl
  · exact ⟨eq_of_isText (by decide +kernel),by decide +kernel⟩
  · exact ⟨eq_of_isText (by decide +kernel),by decide +kernel⟩

lemma evaluateConditional_of_parts (ht : test = "true" ∨ test = "false")
    (hs : s.toList = test.toList ++ ' ' :: '?' :: (yes ++ ':' :: t)) (yes_ne : yes ≠ []) (yes_plain : ':' ∉ yes)
    (hq : '?' ∉ t) (hv : evaluateFuel (s.length+63) (.str (String.ofList yes)) true = .ok v)
    (hp : '?' ∉ v.display.toList) : evaluateConditional s = .ok (if t.takeWhile (· != ':') = [] then s
      else strip v.display ++ String.ofList (t.dropWhile (· != ':'))) := by
  obtain ⟨hvl,htr⟩ := evaluate_test ht
  have hu : unwrapInterpolation s = s := by
    rcases ht with rfl | rfl
    · exact unwrapInterpolation_eq_self hs (by decide)
    · exact unwrapInterpolation_eq_self hs (by decide)
  have hts : String.ofList (test.toList ++ [' ']) = test ++ " " := by
    rcases ht with rfl | rfl <;> rfl
  have hpl : '?' ∉ test.toList ++ [' '] := by rcases ht with rfl | rfl <;> decide
  have hpr := Choice.ofParts (by simp) hpl yes_ne yes_plain t
  have hs : s.toList = Choice.whole (test.toList ++ [' ']) yes (t.takeWhile (· != ':')) (t.dropWhile (· != ':')) := by
    simp [hs,Choice.whole]
  have hf : fuelFor (.str (test ++ " ")) ≤ s.length+63 := by
    have hl := congrArg length hs
    simp only [Choice.whole,length_append,length_cons,length_nil,String.length_toList] at hl
    show (test ++ " ").length+64 ≤ s.length+63
    rw [String.length_append,show " ".length = 1 from rfl]
    omega
  have ht : evaluateFuel (s.length+63) (.str (String.ofList (test.toList ++ [' ']))) true = .ok (.str (test ++ " ")) := by
    rw [hts]
    exact evaluateFuel_of_le hf hvl
  rw [evaluateConditional,hu]
  split
  · next he =>
    rw [he] at hpr hs
    rw [evaluateConditionalFuel,hpr.matchStart?_of_empty hs]
  · next hne =>
    have hr : '?' ∉ t.dropWhile (· != ':') := fun hm => hq ((dropWhile_sublist _).subset hm)
    exact hpr.evaluateConditionalFuel_eq hne hs hr ht htr hv hp

lemma dropWhile_ne_nil {t : List Char} (h : ':' ∈ t) : t.dropWhile (· != ':') ≠ [] := by
  rw [ne_eq,dropWhile_eq_nil_iff]
  exact fun ha => absurd (ha ':' h) (by decide)

lemma quote_mem_dropWhile (h : ':' ∈ t) : '"' ∈ (t ++ ['"']).dropWhile (· != ':') := by
  have hne := dropWhile_ne_nil (mem_append_left ['"'] h)
  have hl : ((t ++ ['"']).dropWhile (· != ':')).getLast hne = '"' := by
    rw [(dropWhile_suffix (· != ':')).getLast hne,getLast_append_singleton]
  have hm := getLast_mem hne
  rwa [hl] at hm

lemma length_padded (x : String) : (" \"" ++ x ++ "\" ").length = x.length+4 := by
  rw [String.length_append,String.length_append,show " \"".length = 2 from rfl,show "\" ".length = 2 from rfl]
  omega

lemma length_choice (test x y : String) : (choice test x y).length = test.length+x.length+y.length+10 := by
  simp only [choice,String.length_append]
  rw [show " ? \"".length = 4 from rfl,show "\" : \"".length = 5 from rfl,show "\"".length = 1 from rfl]
  omega

lemma evaluateFuel_branch (hx : SelfValued x) (hf : x.length+66 ≤ fuel) :
    evaluateFuel fuel (.str (" \"" ++ x ++ "\" ")) true =
      .ok (.str (if x.length+4 ≤ longestEvaluated then x else " \"" ++ x ++ "\" ")) := by
  split
  · next hl =>
    obtain ⟨d,hd⟩ := hx.readable
    rw [evaluateFuel_between_blanks hx.quote hx.underscores hd hl]
    refine evaluateFuel_of_le ?_ hx.value
    show ("\"" ++ x ++ "\"").length+64 ≤ fuel
    rw [String.length_append,String.length_append,show "\"".length = 1 from rfl]
    omega
  · next hl =>
    obtain ⟨fuel,rfl⟩ : ∃ k, fuel = k+1 := ⟨fuel - 1,by omega⟩
    rw [evaluateFuel,if_pos]
    show longestEvaluated < (" \"" ++ x ++ "\" ").length
    rw [length_padded]
    omega

lemma evaluateConditional_choice_of_not_mem (ht : test = "true" ∨ test = "false") (hx : SelfValued x)
    (hy : Quotable y) (hc : ':' ∉ x.toList) : evaluateConditional (choice test x y) =
      .ok (strip (if x.length+4 ≤ longestEvaluated then x else " \"" ++ x ++ "\" ") ++
        String.ofList ((' ' :: '"' :: (y.toList ++ ['"'])).dropWhile (· != ':'))) := by
  have hp : (choice test x y).toList =
      test.toList ++ ' ' :: '?' :: ((" \"" ++ x ++ "\" ").toList ++ ':' :: (' ' :: '"' :: (y.toList ++ ['"']))) := by
    simp [choice]
  have hys : ':' ∉ (" \"" ++ x ++ "\" ").toList := by simp [hc]
  have hq : '?' ∉ ' ' :: '"' :: (y.toList ++ ['"']) := by simp [hy.question]
  have hf : x.length+66 ≤ (choice test x y).length+63 := by
    rw [length_choice]
    omega
  have hv := evaluateFuel_branch hx hf
  rw [evaluateConditional_of_parts ht hp (by simp) hys hq (by rwa [String.ofList_toList])]
  · rfl
  · show '?' ∉ (if x.length+4 ≤ longestEvaluated then x else " \"" ++ x ++ "\" ").toList
    split
    · exact hx.question
    · simp [hx.question]

lemma colon_not_mem_upToColon (x : String) : ':' ∉ (upToColon x).toList := by
  intro hm
  rw [upToColon,String.toList_ofList] at hm
  simpa using all_eq_true.1 all_takeWhile _ hm

lemma exists_eq_upToColon (hc : ':' ∈ x.toList) : ∃ q, x.toList = (upToColon x).toList ++ ':' :: q := by
  obtain ⟨c,q,hq⟩ := exists_cons_of_ne_nil (dropWhile_ne_nil hc)
  have hh := head?_dropWhile_not (· != ':') x.toList
  rw [hq] at hh
  obtain rfl : c = ':' := by simpa using hh
  exact ⟨q,by rw [upToColon,String.toList_ofList,← hq,takeWhile_append_dropWhile]⟩

lemma quote_mem_of_mem (ht : test = "true" ∨ test = "false") (hx : Quotable x) (hy : Quotable y)
    (hc : ':' ∈ x.toList) (hv : evaluate (.str (" \"" ++ upToColon x)) = .ok v) (hp : '?' ∉ v.display.toList) :
    ∃ r, evaluateConditional (choice test x y) = .ok r ∧ '"' ∈ r.toList := by
  obtain ⟨q,hq⟩ := exists_eq_upToColon hc
  have hpr : (choice test x y).toList = test.toList ++ ' ' :: '?' ::
      ((" \"" ++ upToColon x).toList ++ ':' :: (q ++ ['"',' ',':',' ','"'] ++ y.toList ++ ['"'])) := by
    simp [choice,hq]
  have hys : ':' ∉ (" \"" ++ upToColon x).toList := by
    simp [colon_not_mem_upToColon x]
  have hqs : '?' ∉ q ++ ['"',' ',':',' ','"'] ++ y.toList ++ ['"'] := by
    have hm : '?' ∉ q := fun hm => hx.question (by simp [hq,hm])
    simp [hm,hy.question]
  have hf : fuelFor (.str (" \"" ++ upToColon x)) ≤ (choice test x y).length+63 := by
    have hl := congrArg length hq
    simp only [length_append,length_cons,String.length_toList] at hl
    show (" \"" ++ upToColon x).length+64 ≤ _
    rw [length_choice,String.length_append,show " \"".length = 2 from rfl]
    omega
  have hvl := evaluateFuel_of_le hf hv
  rw [evaluateConditional_of_parts ht hpr (by simp) hys hqs (by rwa [String.ofList_toList]) hp]
  refine ⟨_,rfl,?_⟩
  split
  · simp [choice]
  · simp only [String.toList_append,String.toList_ofList,mem_append]
    exact .inr (quote_mem_dropWhile (by simp))

lemma evaluateConditional_choice_cases (ht : test = "true" ∨ test = "false") (hx : SelfValued x) (hy : Quotable y)
    (hf : ':' ∈ x.toList → ∃ v, evaluate (.str (" \"" ++ upToColon x)) = .ok v ∧ '?' ∉ v.display.toList) :
    (Uncut x y ∧ evaluateConditional (choice test x y) = .ok (strip x)) ∨
      (¬ Uncut x y ∧ ∃ r, evaluateConditional (choice test x y) = .ok r ∧ '"' ∈ r.toList) := by
  by_cases hcl : ':' ∈ x.toList
  · obtain ⟨v,hv,hp⟩ := hf hcl
    exact .inr ⟨fun hu => hu.1 hcl,quote_mem_of_mem ht hx.toQuotable hy hcl hv hp⟩
  rw [evaluateConditional_choice_of_not_mem ht hx hy hcl]
  by_cases hct : ':' ∈ y.toList
  · refine .inr ⟨fun hu => hu.2.1 hct,_,rfl,?_⟩
    simp only [String.toList_append,String.toList_ofList,mem_append]
    exact .inr (quote_mem_dropWhile (t := ' ' :: '"' :: y.toList) (by simp [hct]))
  have hr : (' ' :: '"' :: (y.toList ++ ['"'])).dropWhile (· != ':') = [] := by
    rw [dropWhile_eq_nil_iff]
    intro c hc
    have hne : c ≠ ':' := by
      rintro rfl
      simp [hct] at hc
    simpa using hne
  rw [hr]
  by_cases hl : x.length+4 ≤ longestEvaluated
  · exact .inl ⟨⟨hcl,hct,hl⟩,by simp [hl]⟩
  · refine .inr ⟨fun hu => hl hu.2.2,_,rfl,?_⟩
    rw [if_neg hl]
    simp [mem_strip_iff (by decide : isBlank '"' = false)]

/-- A conditional gives its first branch, whatever the test, and gives it whole just where neither branch has a
colon and the first has no blanks around it. -/
theorem evaluateConditional_gives_branch_iff {x y : String} (hx : SelfValued x) (hy : Quotable y)
    (hfirst : ':' ∈ x.toList → ∃ v, evaluate (.str (" \"" ++ upToColon x)) = .ok v ∧ '?' ∉ v.display.toList) :
    (evaluateConditional (choice "true" x y) = .ok x ↔ Uncut x y ∧ strip x = x) ∧
      (evaluateConditional (choice "false" x y) = .ok y ↔ Uncut x y ∧ strip x = y) := by
  have hgives : ∀ test z, (test = "true" ∨ test = "false") → Quotable z →
      (evaluateConditional (choice test x y) = .ok z ↔ Uncut x y ∧ strip x = z) := by
    intro test z ht hz
    rcases evaluateConditional_choice_cases ht hx hy hfirst with ⟨huncut,heq⟩ | ⟨hcut,r,heq,hquote⟩
    · simp [heq,huncut]
    · have hne : r ≠ z := by
        rintro rfl
        exact hz.quote hquote
      simp [heq,hcut,hne]
  exact ⟨hgives "true" x (.inl rfl) hx.toQuotable,hgives "false" y (.inr rfl) hy⟩

lemma SelfValued.of_isOk (hq : '"' ∉ x.toList) (hqs : '?' ∉ x.toList)
    (hu : Text.contains x "__" = false) (hr : (Expr.evaluate ("\"" ++ x ++ "\"")).isOk)
    (hv : isText (evaluate (.str ("\"" ++ x ++ "\""))) x) : SelfValued x where
  quote := hq
  question := hqs
  underscores := hu
  readable := by
    cases hd : Expr.evaluate ("\"" ++ x ++ "\"") with
    | ok d => exact ⟨d,rfl⟩
    | error e => simp [hd,Except.isOk,Except.toBool] at hr
  value := eq_of_isText hv

/-- A resource name with colons is cut, and a test that is false takes the first branch. -/
theorem evaluateConditional_loses_branch : SelfValued "arn:aws:s3:::b" ∧ SelfValued "ab" ∧ SelfValued "y" ∧
      evaluateConditional (choice "true" "arn:aws:s3:::b" "y") ≠ .ok "arn:aws:s3:::b" ∧
      evaluateConditional (choice "true" "ab" "y") = .ok "ab" ∧
      evaluateConditional (choice "false" "ab" "y") ≠ .ok "y" := by
  have hname : SelfValued "arn:aws:s3:::b" :=
    .of_isOk (by decide) (by decide) (by decide +kernel) (by decide +kernel) (by decide +kernel)
  have hab : SelfValued "ab" := .of_isOk (by decide) (by decide) (by decide +kernel) (by decide +kernel) (by decide +kernel)
  have hy : SelfValued "y" := .of_isOk (by decide) (by decide) (by decide +kernel) (by decide +kernel) (by decide +kernel)
  have hfirst : evaluate (.str (" \"" ++ upToColon "arn:aws:s3:::b")) = .ok (.str " \"arn") :=
    eq_of_isText (by decide +kernel)
  have hcut := evaluateConditional_gives_branch_iff hname hy.toQuotable fun _ => ⟨_,hfirst,by decide⟩
  have hplain := evaluateConditional_gives_branch_iff hab hy.toQuotable fun h => absurd h (by decide)
  refine ⟨hname,hab,hy,?_,?_,?_⟩
  · rw [ne_eq,hcut.1]
    exact fun h => h.1.1 (by decide)
  · exact hplain.1.2 ⟨⟨by decide,by decide,by decide⟩,by decide +kernel⟩
  · rw [ne_eq,hplain.2]
    exact fun h => absurd h.2 (by decide +kernel)

end InfraAudit.Terraform
