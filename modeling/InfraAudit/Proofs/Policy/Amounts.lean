import InfraAudit.Policy.Operator
import InfraAudit.Proofs.Decimal.Numeral
import InfraAudit.Proofs.Success

/-! Comparisons of amounts agree with the order of integers, also where a zero has them compare numerals. -/

namespace InfraAudit.Policy

open List Text Decimal

variable {a b : Int}

lemma ofInt?_of_lt (h : a.natAbs < 2^53) : Binary.ofInt? a = some ⟨a < 0,a.natAbs,0⟩ := by
  have he : a.natAbs.log2 - 52 = 0 := by
    by_cases h0 : a.natAbs = 0
    · rw [h0]; rfl
    · have := (Nat.log2_lt h0).2 h
      omega
  have hp : ∀ n ≥ 53, a.natAbs < Nat.pow 2 n := fun n hn => h.trans_le (Nat.pow_le_pow_right (by decide) hn)
  have hl := hp 1024 (by decide)
  unfold Binary.ofInt?
  generalize Nat.pow 2 1024 = top at hl
  simp [he,roundDiv,Nat.mod_one,hl]

lemma fraction_of_int (a : Int) : (⟨a < 0,a.natAbs,0⟩ : Binary).fraction = (a,1) := by
  have ha : (if decide (a < 0) then -1 else 1)*(a.natAbs : Int) = a := by
    split
    · simp_all [abs_of_neg]
    · simp_all
  simpa [Binary.fraction] using ha

lemma toList_positive (h : 0 < a) : ∃ c r, (toString a).toList = c :: r ∧ '0' < c := by
  obtain ⟨n,rfl⟩ := Int.eq_ofNat_of_zero_le h.le
  obtain ⟨c,r,hc,hd⟩ := exists_numeral_eq_cons n
  have h0 := head?_numeral_ne_zero (n := n) (by omega)
  have hk := of_isDigit (fun c => decide (c = '0' ∨ '0' < c)) (by decide) hd
  refine ⟨c,r,(toList_toString n).trans hc,?_⟩
  simp_all

lemma toList_negative (h : a < 0) : ∃ r, (toString a).toList = '-' :: r := by
  obtain ⟨n,rfl⟩ := Int.eq_negSucc_of_lt_zero h
  exact ⟨_,by rw [show toString (Int.negSucc n) = "-" ++ toString (n+1) from rfl,String.toList_append]; rfl⟩

/-- Against a zero the numeral shows the sign. -/
lemma numeral_order (a : Int) : lt "0" (toString a) = decide (0 < a) ∧ lt (toString a) "0" = decide (a < 0) := by
  have h0 : "0".toList = ['0'] := rfl
  simp only [lt,String.lt_iff_toList_lt,decide_eq_decide]
  rcases lt_trichotomy a 0 with h | rfl | h
  · obtain ⟨r,hr⟩ := toList_negative h
    rw [hr,h0,cons_lt_cons_iff,cons_lt_cons_iff]
    simp [h,h.le]
  · decide
  · obtain ⟨c,r,hr,hc⟩ := toList_positive h
    rw [hr,h0,cons_lt_cons_iff,cons_lt_cons_iff]
    simp [h,h.le,hc,hc.not_gt,hc.ne']

lemma amountOf?_int (h : a.natAbs < 2^53) : amountOf? (.int a) = some (.finite ⟨a < 0,a.natAbs,0⟩) := by
  simp only [amountOf?,Value.int?,ofInt?_of_lt h,Option.map_some]

lemma isGreater_int (ha : a.natAbs < 2^53) (hb : b.natAbs < 2^53) :
    isGreater (.int a) (.int b) = decide (b < a) ∧ isAtLeast (.int a) (.int b) = decide (b ≤ a) := by
  have hd : ∀ n : Int, (Value.int n).display = toString n := fun _ => rfl
  have hz : toString (0 : Int) = "0" := rfl
  simp only [isGreater,isAtLeast,compareAmounts,amountOf?_int ha,amountOf?_int hb,Amount.isZero,Amount.compare?,
    Binary.compare,fraction_of_int,hd]
  by_cases h : a = 0 ∨ b = 0
  · rw [if_pos (by simpa using h),if_pos (by simpa using h)]
    simp only [Value.isNull,le,Bool.not_false,Bool.true_and]
    rcases h with rfl | rfl
    · simp only [hz,numeral_order b,← decide_not,not_lt,and_self]
    · simp only [hz,numeral_order a,← decide_not,not_lt,and_self]
  · rw [if_neg (by simpa using h),if_neg (by simpa using h)]
    constructor <;> rw [Bool.eq_iff_iff] <;> simp [Value.isNull,compare_gt_iff_gt,compare_lt_iff_lt]

/-- The four comparisons of an attribute with a value are those of the integers, a zero on either side included. -/
theorem amounts_follow_integers {block : Fields} {key : String} {source : Value}
    (hk : block.lookup key = some (.int a)) (hs : block.lookup "source_" = some source)
    (ha : a.natAbs < 2^53) (hb : b.natAbs < 2^53) :
    Operator.greater.holds block (some key) (.int b) = .ok (decide (a > b)) ∧
    Operator.atLeast.holds block (some key) (.int b) = .ok (decide (a ≥ b)) ∧
    Operator.less.holds block (some key) (.int b) = .ok (decide (a < b)) ∧
    Operator.atMost.holds block (some key) (.int b) = .ok (decide (a ≤ b)) := by
  obtain ⟨hg,hl⟩ := isGreater_int ha hb
  have hu : isUnrendered block (.int a) = .ok false := by simp [isUnrendered,hs,Terraform.isDependent,Value.text?]
  have hn : (Value.int a).isNull = false := rfl
  simp only [Operator.holds,attributeOf,hk,Option.getD_some,unlessUnrendered,hu,ok_bind,hg,hl,hn]
  refine ⟨rfl,rfl,?_,?_⟩ <;> simp [← decide_not]

def negativeSize : Fields := [("source_","Terraform"),("size",.int (-10))]

theorem amounts_follow_integers_negative : Operator.greater.holds negativeSize (some "size") (.int 0) = .ok false ∧
    Operator.atLeast.holds negativeSize (some "size") (.int 0) = .ok false ∧
    Operator.less.holds negativeSize (some "size") (.int 0) = .ok true ∧
    Operator.atMost.holds negativeSize (some "size") (.int 0) = .ok true :=
  amounts_follow_integers (a := -10) (b := 0) rfl rfl (by decide) (by decide)

end InfraAudit.Policy
