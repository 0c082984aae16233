import InfraAudit.Expr.Coercion
import Mathlib.Data.List.Basic

namespace InfraAudit.Decimal

open List Text Nat

def numeral (n : Nat) : List Char := Nat.toDigits 10 n

lemma toList_toString (n : Nat) : (toString n).toList = numeral n := toList_repr

lemma numeral_ne_nil (n : Nat) : numeral n ≠ [] := toDigits_ne_nil

lemma isDigit_of_mem_numeral (h : c ∈ numeral n) : c.isDigit := isDigit_of_mem_toDigits (by decide) (by decide) h

lemma not_mem_toString (h : c.isDigit = false) (n : Nat) : c ∉ (toString n).toList := fun hc => by
  rw [isDigit_of_mem_numeral (toList_toString n ▸ hc)] at h
  cases h

lemma of_isDigit (p : Char → Bool) (h : ['0','1','2','3','4','5','6','7','8','9'].all p) (hc : c.isDigit) : p c := by
  refine all_eq_true.1 h c ?_
  have hr : 48 ≤ c.toNat ∧ c.toNat ≤ 57 := Char.isDigit_iff_toNat.1 hc
  rw [← Char.ofNat_toNat c]
  generalize c.toNat = k at hr
  have hk : k = 48 ∨ k = 49 ∨ k = 50 ∨ k = 51 ∨ k = 52 ∨ k = 53 ∨ k = 54 ∨ k = 55 ∨ k = 56 ∨ k = 57 := by
    omega
  rcases hk with rfl | rfl | rfl | rfl | rfl | rfl | rfl | rfl | rfl | rfl <;> decide

lemma exists_numeral_eq_cons (n : Nat) : ∃ c r, numeral n = c :: r ∧ c.isDigit := by
  obtain ⟨c,r,h⟩ := exists_cons_of_ne_nil (numeral_ne_nil n)
  exact ⟨c,r,h,isDigit_of_mem_numeral (n := n) (by simp [h])⟩

lemma numeral_of_le (h : 10 ≤ n) : numeral n = numeral (n / 10) ++ [Nat.digitChar (n % 10)] :=
  toDigits_of_base_le (by decide) h

lemma numeral_of_lt (h : n < 10) : numeral n = [Nat.digitChar n] := toDigits_of_lt_base h

lemma head?_numeral_ne_zero (h : 0 < n) : (numeral n).head? ≠ some '0' := by
  induction n using Nat.strongRecOn with
  | ind n ih =>
    rcases Nat.lt_or_ge n 10 with hlt | hge
    · rw [numeral_of_lt hlt]
      have hn : n = 1 ∨ n = 2 ∨ n = 3 ∨ n = 4 ∨ n = 5 ∨ n = 6 ∨ n = 7 ∨ n = 8 ∨ n = 9 := by omega
      rcases hn with rfl | rfl | rfl | rfl | rfl | rfl | rfl | rfl | rfl <;> decide
    · rw [numeral_of_le hge,List.head?_append_of_ne_nil _ (numeral_ne_nil _)]
      exact ih (n / 10) (by omega) (by omega)

lemma numeral_zero : numeral 0 = ['0'] := rfl

lemma natOf_numeral (n : Nat) : Json.natOf (numeral n) = n := ofDigitChars_ten_toDigits

lemma toString_eq_iff {a b : Nat} : toString a = toString b ↔ a = b := by
  refine ⟨fun h => ?_,congrArg _⟩
  rw [← natOf_numeral a,← toList_toString,h,toList_toString,natOf_numeral]

lemma strip_of_unblank (h : ∀ c ∈ s.toList, isBlank c = false) : strip s = s := by
  have hd : ∀ l : List Char, (∀ c ∈ l, isBlank c = false) → l.dropWhile isBlank = l := by
    intro l hl
    cases l with
    | nil => rfl
    | cons c l => exact dropWhile_cons_of_neg (by simp [hl c])
  rw [strip,stripBy,dropTrailing,hd _ h,hd _ (by simpa using h),reverse_reverse,String.ofList_toList]

lemma dropUnderscores_of_digits (h : ∀ c ∈ ds, c.isDigit) (afterDigit : Bool)
    (hne : afterDigit ∨ ds ≠ []) : dropUnderscores afterDigit ds = some ds := by
  induction ds generalizing afterDigit with
  | nil => simpa [dropUnderscores] using hne
  | cons c ds ih =>
    have hc : (c != '_') := of_isDigit (· != '_') (by decide) (h c (by simp))
    have hr := ih (fun d hd => h d (by simp [hd])) true (.inl rfl)
    have hc : (c == '_') = false := by simpa using hc
    simp [dropUnderscores,hc,hr]

lemma natOfDigits?_of_digits (h : ∀ c ∈ ds, c.isDigit) : natOfDigits? 10 ds = some (Json.natOf ds) := by
  unfold natOfDigits? Json.natOf
  generalize 0 = n
  induction ds generalizing n with
  | nil => rfl
  | cons c ds ih =>
    have hc := h c (by simp)
    have hlt : c.toNat - 48 < 10 := by
      simpa using of_isDigit (fun c => decide (c.toNat - 48 < 10)) (by decide) hc
    rw [foldl_cons,foldl_cons,← ih (fun d hd => h d (by simp [hd]))]
    simp [digitValue?,hc,hlt]

lemma natOfDigits?_of_dash (h : '-' ∈ ds) : natOfDigits? 10 ds = none := by
  unfold natOfDigits?
  have ha : '-' ∈ ds ∨ some 0 = none := .inl h
  generalize some 0 = acc at ha ⊢
  clear h
  induction ds generalizing acc with
  | nil => simpa using ha
  | cons c ds ih =>
    refine ih _ ?_
    rcases ha with hm | rfl
    · rcases mem_cons.1 hm with rfl | hm
      · cases acc <;> exact .inr rfl
      · exact .inl hm
    · exact .inr rfl

lemma dash_mem_of_dropUnderscores (h : dropUnderscores b ds = some r) (hd : '-' ∈ ds) : '-' ∈ r := by
  induction ds generalizing b r with
  | nil => cases hd
  | cons c ds ih =>
    rw [dropUnderscores] at h
    split at h
    · next hc =>
      split at h
      · obtain rfl : c = '_' := eq_of_beq hc
        exact ih h (by simpa using hd)
      · cases h
    · obtain ⟨r',hr',rfl⟩ := Option.map_eq_some_iff.1 h
      rcases mem_cons.1 hd with rfl | hd
      · simp
      · exact mem_cons_of_mem _ (ih hr' hd)

lemma announcedBase?_numeral (n : Nat) (hr : r.head? = none ∨ r.head? = some '-') :
    announcedBase? (numeral n ++ r) = none := by
  rcases Nat.eq_zero_or_pos n with rfl | hp
  · rcases r with _ | ⟨c,r⟩
    · rfl
    · obtain rfl : c = '-' := by simpa using hr
      rfl
  · have hh := head?_numeral_ne_zero hp
    obtain ⟨c,ds,hc,-⟩ := exists_numeral_eq_cons n
    rw [hc] at hh ⊢
    unfold announcedBase?
    split
    · simp_all
    · rfl

lemma int?_eq (hs : s.toList = numeral n ++ r)
    (hr : r.head? = none ∨ r.head? = some '-') (hdg : ∀ c ∈ r, c.isDigit ∨ c = '-') : int? s = do
      let ds ← dropUnderscores false (numeral n ++ r) return ((← natOfDigits? 10 ds : Nat) : Int) := by
  have hch : ∀ c ∈ numeral n ++ r, isBlank c = false ∧ plainDigit c = c := by
    intro c hc
    have hd : c.isDigit ∨ c = '-' := (mem_append.1 hc).elim (.inl ∘ isDigit_of_mem_numeral) (hdg c)
    rcases hd with hd | rfl
    · simpa using of_isDigit (fun c => !isBlank c && plainDigit c == c) (by decide) hd
    · decide
  have hst : strip s = s := strip_of_unblank fun c hc => (hch c (hs ▸ hc)).1
  have hm : (numeral n ++ r).map plainDigit = numeral n ++ r := by
    rw [map_congr_left fun c hc => (hch c hc).2,map_id']
  have hsg : splitSign (numeral n ++ r) = (false,numeral n ++ r) := by
    obtain ⟨c,ds,hcn,hc⟩ := exists_numeral_eq_cons n
    have hne : (c != '-' && c != '+') := of_isDigit (fun c => c != '-' && c != '+') (by decide) hc
    rw [hcn]
    unfold splitSign
    split <;> simp_all
  rw [int?,intOfText?,hst,hs,hm,hsg]
  simp [announcedBase?_numeral n hr]

lemma int?_toString (n : Nat) : int? (toString n) = some (n : Int) := by
  have hd : ∀ c ∈ numeral n, c.isDigit := fun c hc => isDigit_of_mem_numeral hc
  rw [int?_eq (n := n) (r := []) (by simp [numeral]) (.inl rfl) (by simp),append_nil,
    dropUnderscores_of_digits hd false (.inr (numeral_ne_nil n))]
  simp [natOfDigits?_of_digits hd,natOf_numeral]

lemma integer_toString (n : Nat) : integer (toString n) = .ok (n : Int) := by
  rw [integer,int?_toString,Option.elim_some]

lemma toInt_text (s : String) : (Value.str s).toInt = integer s := by
  simp only [Value.toInt,Value.int?,Value.needText,Value.text?,bind,Except.bind,Option.elim]

lemma int?_range (m n : Nat) : int? (toString m ++ "-" ++ toString n) = none := by
  rw [int?_eq (n := m) (r := '-' :: numeral n) (by simp [numeral]) (.inr rfl)
    fun c hc => (mem_cons.1 hc).symm.imp_left isDigit_of_mem_numeral]
  cases hds : dropUnderscores false (numeral m ++ '-' :: numeral n) with
  | none => rfl
  | some ds => simp [natOfDigits?_of_dash (dash_mem_of_dropUnderscores hds (by simp))]

end InfraAudit.Decimal
