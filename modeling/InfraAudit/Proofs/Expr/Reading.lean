import InfraAudit.Expr.Eval
import InfraAudit.Proofs.Decimal.Numeral

namespace InfraAudit.Expr

open List Decimal

open Decimal (numeral)

variable {r cs ds tail : List Char} {s : String}

/-- Nothing follows, or a blank does. -/
def Ends (r : List Char) : Prop := r = [] ∨ ∃ t, r = ' ' :: t

lemma digitRun_append (hds : ∀ c ∈ ds, c.isDigit) (hr : Ends r) : digitRun Char.isDigit (ds ++ r) = (ds,r) := by
  induction ds with
  | nil =>
    rcases hr with rfl | ⟨t,rfl⟩
    · rfl
    · simp [digitRun]
  | cons c ds ih =>
    have hc := hds c (by simp)
    have hu : c ≠ '_' := by
      rintro rfl
      simp at hc
    rw [cons_append,digitRun]
    · simp [hc,ih (fun d hd => hds d (by simp [hd]))]
    · intro d t h
      exact absurd h hu

lemma digitsFrom_append (hds : ∀ c ∈ ds, c.isDigit) (hr : Ends r) : digitsFrom Char.isDigit (ds ++ r) = (ds,r) := by
  unfold digitsFrom
  split
  · next t h =>
    -- Neither a digit nor what ends a numeral is an underscore.
    exfalso
    cases ds with
    | nil => rcases hr with rfl | ⟨u,rfl⟩ <;> simp at h
    | cons c ds =>
      have hc := hds c (by simp)
      rw [(List.cons.inj h).1] at hc
      simp at hc
  · exact digitRun_append hds hr

lemma numeral_plain (n : Nat) : ((numeral n).head? == some '0' && (numeral n).any (· != '0')) = false := by
  rcases Nat.eq_zero_or_pos n with rfl | hp
  · decide
  · have h := head?_numeral_ne_zero hp
    simp [h]

lemma baseOf?_of_numeral (hr : Ends r)
    (h : numeral n ++ r = '0' :: b :: t) : baseOf? b = none := by
  rcases Nat.eq_zero_or_pos n with rfl | hp
  · rcases hr with rfl | ⟨u,rfl⟩
    · simp [numeral_zero] at h
    · obtain ⟨rfl,-⟩ : ' ' = b ∧ u = t := by simpa [numeral_zero] using h
      decide
  · have hh := head?_numeral_ne_zero hp
    rw [← List.head?_append_of_ne_nil _ (numeral_ne_nil n),h] at hh
    simp at hh

lemma readNumber_numeral (n : Nat) (hr : Ends r) : readNumber (numeral n ++ r) = .ok (.number (.int n),r) := by
  have hd : digitsFrom Char.isDigit (numeral n ++ r) = (numeral n,r) :=
    digitsFrom_append (fun c hc => isDigit_of_mem_numeral hc) hr
  have hw : Text.isWord ' ' = false := by decide
  unfold readNumber
  simp only [hd,numeral_plain,natOf_numeral]
  split
  · next h =>
    rw [baseOf?_of_numeral hr h]
    rcases hr with rfl | ⟨t,rfl⟩ <;> simp [endsNumber,hw]
  · rcases hr with rfl | ⟨t,rfl⟩ <;> simp [endsNumber,hw]

inductive Relation where
  | eq | ne | lt | le | gt | ge
  deriving DecidableEq, Repr

namespace Relation

def symbol : Relation → String
  | eq => "=="
  | ne => "!="
  | lt => "<"
  | le => "<="
  | gt => ">"
  | ge => ">="

def op : Relation → CompareOp
  | eq => .eq
  | ne => .ne
  | lt => .lt
  | le => .le
  | gt => .gt
  | ge => .ge

def text (p : Relation) (a b : Nat) : String := toString a ++ " " ++ p.symbol ++ " " ++ toString b

def holds (p : Relation) (a b : Nat) : Bool :=
  match p with
  | eq => a == b
  | ne => a != b
  | lt => a < b
  | le => a ≤ b
  | gt => b < a
  | ge => b ≤ a

end Relation

inductive Connective where
  | both | either
  deriving DecidableEq, Repr

namespace Connective

def mark : Connective → Char
  | both => '&'
  | either => '|'

def symbol : Connective → String
  | both => "&&"
  | either => "||"

def text (o : Connective) (s t : String) : String := s ++ " " ++ o.symbol ++ " " ++ t

def holds (o : Connective) (x y : Bool) : Bool :=
  match o with
  | both => x && y
  | either => x || y

end Connective

lemma scan_blank (fuel : Nat) (nesting : List String) (acc : List Token) (r : List Char) :
    scan (fuel+1) nesting acc (' ' :: r) = scan fuel nesting acc r := rfl

lemma scan_relation (p : Relation) (fuel : Nat) (acc : List Token) (r : List Char) :
    scan (fuel+1) [] acc (p.symbol.toList ++ ' ' :: r) = scan fuel [] (.symbol p.symbol :: acc) (' ' :: r) := by
  cases p <;> rfl

lemma scan_connective (o : Connective) (fuel : Nat) (acc : List Token) (r : List Char) :
    scan (fuel+2) [] acc (o.symbol.toList ++ ' ' :: r) =
      scan fuel [] (.symbol (String.singleton o.mark) :: .symbol (String.singleton o.mark) :: acc) (' ' :: r) := by
  cases o <;> rfl

lemma scan_numeral (n fuel : Nat) (nesting : List String) (acc : List Token) (hr : Ends r) :
    scan (fuel+1) nesting acc (numeral n ++ r) = scan fuel nesting (.number (.int n) :: acc) r := by
  have hrd := readNumber_numeral n hr
  obtain ⟨c,ds,hcn,hc⟩ := exists_numeral_eq_cons n
  rw [hcn,cons_append] at hrd ⊢
  have hp := of_isDigit (fun c => c != '\n' && c != '\\' && c != '#' &&
    !(c == ' ' || c == '\t' || c == '\x0c') && !isQuote c) (by decide) hc
  simp only [Bool.and_eq_true,bne_iff_ne,Bool.not_eq_true'] at hp
  obtain ⟨⟨⟨⟨hl,hb⟩,hrm⟩,hbl⟩,hq⟩ := hp
  rw [scan]
  · simp only [hbl,hq,hc,Bool.true_or,hrd]
    rfl
  · exact fun h => absurd h hl
  · exact fun t h => absurd h hb
  · exact fun h => absurd h hrm

def doubleQuoted : Quoting := ⟨'"',false,false,false⟩

lemma readQuoted_escape (fuel : Nat) (acc : List Char) (c : Char) (r : List Char) :
    readQuoted doubleQuoted (fuel+1) acc ('\\' :: c :: r) = match escape? false c r with
      | some (ds,n) => readQuoted doubleQuoted fuel (ds ++ acc) (r.drop n)
      | none => bad := rfl

lemma readQuoted_char (hq : c ≠ '"') (hb : c ≠ '\\') (fuel : Nat) (acc r : List Char) :
    readQuoted doubleQuoted (fuel+1) acc (c::r) =
      if c = '\n' then bad else readQuoted doubleQuoted fuel (c::acc) r := by
  conv_lhs => unfold readQuoted
  split
  · next h => cases h
  · next h => exact absurd (List.cons.inj h).1 hb
  · next h => exact absurd (List.cons.inj h).1 hb
  · next h =>
    obtain ⟨rfl,rfl⟩ := List.cons.inj h
    simp [doubleQuoted,hq]

lemma readQuoted_plain (hcs : ∀ c ∈ cs, c ≠ '"' ∧ c ≠ '\\' ∧ c ≠ '\n') (r acc : List Char) (hf : cs.length < fuel) :
    readQuoted doubleQuoted fuel acc (cs ++ '"' :: r) = .ok (String.ofList (acc.reverse ++ cs),r) := by
  obtain ⟨fuel,rfl⟩ : ∃ k, fuel = k+1 := ⟨fuel - 1,by omega⟩
  induction cs generalizing fuel acc with
  | nil => simp [readQuoted,doubleQuoted]
  | cons c cs ih =>
    obtain ⟨⟨hq,hb,hl⟩,hcs⟩ := forall_mem_cons.1 hcs
    obtain ⟨fuel,rfl⟩ : ∃ k, fuel = k+1 := ⟨fuel - 1,by simp at hf; omega⟩
    rw [cons_append,readQuoted_char hq hb,if_neg hl,ih hcs (c::acc) fuel (by simpa using hf)]
    simp

lemma readQuotedToken_eq (hcs : '"' ∉ cs) (ht : tail.head? ≠ some '"') :
    readQuotedToken [] '"' (cs ++ '"' :: tail) = do
      let (s,r) ← readQuoted doubleQuoted ((cs ++ '"' :: tail).length+1) [] (cs ++ '"' :: tail) return (.text s,r) := by
  have hl : quotePrefix? [] = some (false,false,false) := by decide +kernel
  obtain ⟨a,r,hr⟩ : ∃ a r, cs ++ '"' :: tail = a :: r := exists_cons_of_ne_nil (by simp)
  have hd : ∀ b r', r = b :: r' → (a == '"' && b == '"') = false := by
    rintro b r' rfl
    cases cs with
    | nil =>
      obtain ⟨-,rfl⟩ := List.cons.inj hr
      have hb : b ≠ '"' := by simpa using ht
      simp [hb]
    | cons c cs =>
      obtain ⟨rfl,-⟩ := List.cons.inj hr
      have hc : c ≠ '"' := fun hc => hcs (by simp [hc])
      simp [hc]
  unfold readQuotedToken
  simp only [hl,hr]
  cases r with
  | nil => rfl
  | cons b r =>
    simp only [hd b r rfl,Bool.false_eq_true,if_false]
    rfl

lemma scan_quote (fuel : Nat) (acc : List Token) (r : List Char) : scan (fuel+1) [] acc ('"' :: r) =
      readQuotedToken [] '"' r >>= fun (t,r) => scan fuel [] (t::acc) r := by
  rw [scan]
  · rfl
  all_goals simp

lemma plainNewlines_eq_self (h : '\r' ∉ cs) : plainNewlines cs = cs := by
  induction cs with
  | nil => rfl
  | cons c cs ih =>
    have hc : c ≠ '\r' := fun hc => h (by simp [hc])
    have hrs := ih (fun hcs => h (by simp [hcs]))
    rw [plainNewlines]
    · rw [hrs]
    · exact fun r hr => absurd hr hc
    · exact fun hr => absurd hr hc

lemma tokens_eq_scan (hz : '\x00' ∉ s.toList) (hr : '\r' ∉ s.toList)
    (hh : ∀ c, s.toList.head? = some c → (c == ' ' || c == '\t') = false) :
    tokens s = scan (s.toList.length+1) [] [] s.toList := by
  have hd : s.toList.dropWhile (fun c => c == ' ' || c == '\t') = s.toList := by
    cases hs : s.toList with
    | nil => rfl
    | cons c cs => exact dropWhile_cons_of_neg (by simp [hh c (by simp [hs])])
  have hc : s.toList.contains '\x00' = false := by simpa using hz
  simp only [tokens,hd,hc,plainNewlines_eq_self hr]
  rfl

def isFormulaChar (c : Char) : Bool := c.isDigit || [' ','=','!','<','>','&','|'].contains c

/-- A text that starts with a digit and has only numerals, operators and blanks. -/
structure Formula (s : String) : Prop where
  head : ∃ c, s.toList.head? = some c ∧ c.isDigit
  chars : ∀ c ∈ s.toList, isFormulaChar c

namespace Formula

lemma not_mem (h : Formula s) (hc : isFormulaChar c = false) : c ∉ s.toList := by
  intro hm
  rw [h.chars c hm] at hc
  simp at hc

lemma numeral (n : Nat) : Formula (toString n) := by
  constructor
  · obtain ⟨c,r,hcn,hc⟩ := exists_numeral_eq_cons n
    exact ⟨c,by rw [toList_toString,hcn]; rfl,hc⟩
  · intro c hc
    rw [toList_toString] at hc
    simp [isFormulaChar,isDigit_of_mem_numeral hc]

lemma append {t op : String} (hs : Formula s) (ht : Formula t) (hop : op.toList.all isFormulaChar) :
    Formula (s ++ " " ++ op ++ " " ++ t) := by
  obtain ⟨c,hh,hc⟩ := hs.head
  refine ⟨⟨c,?_,hc⟩,?_⟩
  · simp only [String.toList_append,append_assoc,List.head?_append,hh]
    rfl
  · have hb : ∀ d ∈ " ".toList, isFormulaChar d := all_eq_true.1 (by decide)
    simp only [String.toList_append,forall_mem_append]
    exact ⟨⟨⟨⟨hs.chars,hb⟩,all_eq_true.1 hop⟩,hb⟩,ht.chars⟩

lemma relation (p : Relation) (a b : Nat) : Formula (p.text a b) :=
  (numeral a).append (numeral b) (by cases p <;> decide)

lemma connective (o : Connective) (hs : Formula s) (ht : Formula t) : Formula (o.text s t) :=
  hs.append ht (by cases o <;> decide)

lemma tokens_eq_scan (h : Formula s) : tokens s = scan (s.toList.length+1) [] [] s.toList := by
  refine Expr.tokens_eq_scan (h.not_mem (by decide)) (h.not_mem (by decide)) ?_
  intro c hc
  obtain ⟨d,hh,hd⟩ := h.head
  obtain rfl : d = c := by simpa [hh] using hc
  simpa using of_isDigit (fun c => !(c == ' ' || c == '\t')) (by decide) hd

end Formula

lemma tokens_numeral (n : Nat) : tokens (toString n) = .ok [.number (.int n)] := by
  have hp := length_pos_of_ne_nil (numeral_ne_nil n)
  obtain ⟨k,hk⟩ : ∃ k, (numeral n).length+1 = k+2 := ⟨(numeral n).length - 1,by omega⟩
  have hs := scan_numeral n (k+1) [] [] (.inl rfl)
  rw [append_nil] at hs
  rw [(Formula.numeral n).tokens_eq_scan,toList_toString,hk,hs]
  rfl

lemma Relation.length_symbol_pos (p : Relation) : 0 < p.symbol.toList.length := by cases p <;> decide

lemma Relation.toList_text (q : Relation) (c d : Nat) :
    (q.text c d).toList = numeral c ++ ' ' :: (q.symbol.toList ++ ' ' :: numeral d) := by
  simp [Relation.text,← toList_toString]

lemma scan_relation_text (q : Relation) (c d fuel : Nat) (acc : List Token) : scan (fuel+6) [] acc (q.text c d).toList =
      .ok (acc.reverse ++ [.number (.int c),.symbol q.symbol,.number (.int d)]) := by
  rw [q.toList_text,← append_nil (numeral d),scan_numeral c _ _ _ (.inr ⟨_,rfl⟩),scan_blank,
    scan_relation,scan_blank,scan_numeral d _ _ _ (.inl rfl)]
  simp [scan]

lemma le_length_relation (q : Relation) (c d : Nat) : 5 ≤ (q.text c d).toList.length := by
  have hc := length_pos_of_ne_nil (Decimal.numeral_ne_nil c)
  have hd := length_pos_of_ne_nil (Decimal.numeral_ne_nil d)
  have hq := q.length_symbol_pos
  simp only [q.toList_text,length_append,length_cons]
  omega

lemma tokens_relation (q : Relation) (c d : Nat) :
    tokens (q.text c d) = .ok [.number (.int c),.symbol q.symbol,.number (.int d)] := by
  obtain ⟨k,hk⟩ := Nat.exists_eq_add_of_le (le_length_relation q c d)
  rw [(Formula.relation q c d).tokens_eq_scan,hk,show 5+k+1 = k+6 by omega,scan_relation_text]
  rfl

lemma tokens_connective (o : Connective) (q : Relation) (b c d : Nat) : tokens (o.text (toString b) (q.text c d)) =
      .ok [.number (.int b),.symbol (String.singleton o.mark),.symbol (String.singleton o.mark),
        .number (.int c),.symbol q.symbol,.number (.int d)] := by
  have ht : (o.text (toString b) (q.text c d)).toList =
      numeral b ++ ' ' :: (o.symbol.toList ++ ' ' :: (q.text c d).toList) := by
    simp [Connective.text,← Decimal.toList_toString]
  have hl : 10 ≤ (o.text (toString b) (q.text c d)).toList.length := by
    have hb := length_pos_of_ne_nil (Decimal.numeral_ne_nil b)
    have hr := le_length_relation q c d
    have ho : o.symbol.toList.length = 2 := by cases o <;> rfl
    simp only [ht,length_append,length_cons]
    omega
  obtain ⟨k,hk⟩ := Nat.exists_eq_add_of_le hl
  rw [((Formula.numeral b).connective o (.relation q c d)).tokens_eq_scan,hk,ht,
    show 10+k+1 = k+11 by omega,scan_numeral b _ _ _ (.inr ⟨_,rfl⟩),scan_blank,scan_connective,scan_blank,
    scan_relation_text]
  rfl

lemma compareValues_int (q : Relation) (c d : Nat) : compareValues q.op (.int c) (.int d) = .ok (q.holds c d) := by
  have heq : (Value.int c == Value.int d) = decide (c = d) := by
    show Value.eq (.int c) (.int d) = _
    rw [Bool.eq_iff_iff]
    simp only [Value.eq,Value.eqScalar,Value.int?,beq_iff_eq,decide_eq_true_eq]
    omega
  have hc : Value.compare? (.int c) (.int d) = .ok (some (compare (c : Int) (d : Int))) := by
    simp [Value.compare?,Value.compareNumbers?,Value.int?]
  rcases Nat.lt_trichotomy c d with hlt | rfl | hgt
  · have ho : compare (c : Int) (d : Int) = .lt := Int.compare_eq_lt.2 (by omega)
    cases q <;> simp [Relation.op,compareValues,Relation.holds,Value.lt,Value.le,Value.gt,Value.ge,heq,
      hc,ho,hlt,Nat.le_of_lt hlt,Nat.ne_of_lt hlt]
  · cases q <;> simp [Relation.op,compareValues,Relation.holds,Value.lt,Value.le,Value.gt,Value.ge,heq,hc]
  · have ho : compare (c : Int) (d : Int) = .gt := Int.compare_eq_gt.2 (by omega)
    cases q <;> simp [Relation.op,compareValues,Relation.holds,Value.lt,Value.le,Value.gt,Value.ge,heq,
      hc,ho,hgt,Nat.le_of_lt hgt,Nat.ne_of_gt hgt]

lemma evaluate_numeral (n : Nat) : evaluate (toString n) = .ok (.data (.int n)) := by
  have hr : read (toString n) = .ok (.lit (.int n)) := by
    unfold read
    rw [tokens_numeral]
    rfl
  unfold evaluate
  rw [hr]
  rfl

lemma evaluate_relation (q : Relation) (c d : Nat) : evaluate (q.text c d) = .ok (.data (.bool (q.holds c d))) := by
  have hr : read (q.text c d) = .ok (.compare (.lit (.int c)) [(q.op,.lit (.int d))]) := by
    unfold read
    rw [tokens_relation]
    cases q <;> rfl
  have hc := compareValues_int q c d
  unfold evaluate
  rw [hr]
  generalize 4*(q.text c d).length = k
  show (do return Datum.data (.bool (← evalComparisons (k+999) {} (.int c) [(q.op,.lit (.int d))])) : Result Datum) = _
  simp only [evalComparisons,evalValue,eval,bind,Except.bind,pure,Except.pure,Datum.value,hc]
  cases q.holds c d <;> rfl

lemma evaluate_connective (o : Connective) (q : Relation) (b c d : Nat) :
    evaluate (o.text (toString b) (q.text c d)) = bad := by
  have hr : read (o.text (toString b) (q.text c d)) = bad := by
    unfold read
    rw [tokens_connective]
    cases o <;> rfl
  unfold evaluate
  rw [hr]
  rfl

end InfraAudit.Expr
