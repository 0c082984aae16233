import InfraAudit.Proofs.Policy.Identity

/-!
Operators that turn others round. At one attribute an operator and its opposite disagree; over several, a test and its
opposite may both hold, or both fail.
-/

namespace InfraAudit.Policy

open Terraform

/-- References count for the operator, or for the one that it turns round. -/
def Operator.heeds : Operator → Bool
  | .any | .present | .absent | .matching | .notMatching | .contains | .notContains | .subset | .notSubset => false
  | _ => true

/-- The answer of another operator is turned round whatever it was given for. -/
def Operator.turnsRound : Operator → Bool
  | .notStartsWith | .notEndsWith | .isNotEmpty | .lengthNotEquals | .isFalse => true
  | _ => false

def Operator.opposite? : Operator → Option Operator
  | .equals => some .notEquals
  | .contains => some .notContains
  | .present => some .absent
  | .matching => some .notMatching
  | .startsWith => some .notStartsWith
  | .endsWith => some .notEndsWith
  | .subset => some .notSubset
  | _ => none

lemma isNull_of_isUnrendered (h : isUnrendered block a = .ok true) : a.isNull = false := by
  cases a with
  | null =>
    rw [isUnrendered] at h
    cases hs : block.lookup "source_" with
    | none => simp [hs] at h
    | some source => simp [hs,isDependent,Value.text?] at h
  | _ => rfl

lemma isEqual_of_unrendered (hb : b.text? ≠ some "") (h : isUnrendered block a = .ok true) :
    isEqual block a b = .ok true := by
  have hne : (b != Value.str "") := by
    rw [bne,Bool.not_eq_true',← Bool.not_eq_true]
    exact fun heq => hb (text?_of_eq_right heq rfl)
  simp [isEqual,hne,h]

lemma lengthIs_of_unrendered (h : isUnrendered block a = .ok true) (rel : Int → Int → Bool) :
    lengthIs block a b rel = .ok true := by
  simp [lengthIs,isNull_of_isUnrendered h,h]

lemma Operator.holds_of_unrendered {op : Operator} (hop : op.heeds) (hb : b.text? ≠ some "")
    (h : isUnrendered block (attributeOf block key) = .ok true) : op.holds block key b = .ok !op.turnsRound := by
  have hn := isNull_of_isUnrendered h
  cases op with
  | any | present | absent | matching | notMatching | contains | notContains | subset | notSubset => simp [heeds] at hop
  | equals => exact isEqual_of_unrendered hb h
  | lengthEquals | lengthGreater | lengthAtLeast | lengthLess | lengthAtMost =>
    simp [holds,lengthIs_of_unrendered h,turnsRound]
  | lengthNotEquals => exact congrArg negated (lengthIs_of_unrendered h _)
  | notEquals | within | greater | atLeast | less | atMost | isEmpty | isTrue | startsWith | endsWith =>
    simp [holds,isEmptyValue,isTrueValue,startsWithText,endsWithText,hn,unlessUnrendered,h,turnsRound]
  | isNotEmpty | isFalse | notStartsWith | notEndsWith =>
    simp [holds,isEmptyValue,isTrueValue,startsWithText,endsWithText,hn,unlessUnrendered,h,turnsRound,negated,bind,
      Except.bind,pure,Except.pure]

lemma Operator.holds_opposite {op opp : Operator} (hop : op.opposite? = some opp)
    (h : isUnrendered block (attributeOf block key) = .ok false) : opp.holds block key b = negated (op.holds block key b) := by
  cases op <;> cases hop
  case present => simp [holds,negated]
  case equals => simp [holds,unlessUnrendered,h]
  all_goals rfl

lemma TypeNames.includes_append {types : TypeNames} (h : types.includes block = .ok true) (new : Fields) :
    types.includes (block ++ new) = .ok true := by
  unfold includes at h ⊢
  split
  · rfl
  · next he =>
    rw [if_neg he] at h
    cases ht : block.lookup "resource_type" with
    | none => simp [ht] at h
    | some type => simpa [List.lookup_append,ht] using h

namespace AttributeTest

variable {t : AttributeTest}

lemma exec_holds_of_look (hs : t.types.includes block = .ok true) (hl : t.look block = .ok (after,keys)) :
    exec t.holds block = (t.settle after (t.asked keys),after) := by
  obtain ⟨new,rfl,-⟩ := look_eq hl
  rw [exec_holds,hl]
  simp [answer,TypeNames.includes_append hs]

lemma settle_of_same (hne : ks ≠ []) (h : ∀ k ∈ ks, t.holdsFor block k = .ok b) : t.settle block ks = .ok b := by
  induction ks with
  | nil => exact absurd rfl hne
  | cons k ks ih =>
    have hk := h k (by simp)
    cases ks with
    | nil => rw [settle_singleton,hk]
    | cons k' ks =>
      rw [settle,hk]
      show (if b = t.byPath then t.settle block (k'::ks) else .ok b) = .ok b
      split
      · exact ih (by simp) fun j hj => h j (by simp [hj])
      · rfl

lemma settle_of_mem (h : ∀ k ∈ ks, ∃ b, t.holdsFor block k = .ok b)
    (hs : ∃ k ∈ ks, t.holdsFor block k = .ok !t.byPath) : t.settle block ks = .ok !t.byPath := by
  induction ks with
  | nil => simp at hs
  | cons k ks ih =>
    obtain ⟨b,hb⟩ := h k (by simp)
    rw [settle,hb]
    show (if b = t.byPath then t.settle block ks else .ok b) = .ok !t.byPath
    split
    · next ho =>
      obtain ⟨j,hj,ha⟩ := hs
      rcases List.mem_cons.1 hj with rfl | hj
      · simp [hb,ho] at ha
      · exact ih (fun i hi => h i (by simp [hi])) ⟨j,hj,ha⟩
    · next hst => rw [Bool.eq_not.2 hst]

lemma asked_ne_nil (t : AttributeTest) (keys : List String) : t.asked keys ≠ [] := by
  unfold asked
  split
  · simp
  · next hk => simpa using hk

/-- On a block of the types, an attribute with a value that still holds a reference satisfies every operator that
heeds references but for those that turn another round, and so does a test all of whose attributes have such values. -/
theorem unrendered_passes_iff (hop : t.operator.heeds = true) (hvalue : t.value.text? ≠ some "")
    (hsource : block.lookup "source_" = some (.str "Terraform")) (hscope : t.types.includes block = .ok true) :
    (∀ k, isDependent (attributeOf block k) = true → t.holdsFor block k = .ok !t.operator.turnsRound) ∧
      ∀ after keys, t.look block = .ok (after,keys) →
        (∀ k ∈ t.asked keys, isDependent (attributeOf after k) = true) →
        exec t.holds block = (.ok !t.operator.turnsRound,after) := by
  have hunrendered : ∀ fs : Fields, fs.lookup "source_" = some (.str "Terraform") → ∀ k,
      isDependent (attributeOf fs k) = true → t.holdsFor fs k = .ok !t.operator.turnsRound := by
    intro fs hfs k hdependent
    refine Operator.holds_of_unrendered hop hvalue ?_
    have hsame : (Value.str "Terraform" == Value.str "Terraform") = true := eq_of_text? rfl rfl
    simp only [isUnrendered,hfs,hdependent,hsame,Bool.and_true]
    rfl
  refine ⟨hunrendered block hsource,fun after keys hlook hdependent => ?_⟩
  have hafter : after.lookup "source_" = some (.str "Terraform") := by
    obtain ⟨new,rfl,-⟩ := look_eq hlook
    rw [List.lookup_append,hsource]
    rfl
  rw [exec_holds_of_look hscope hlook,
    settle_of_same (t.asked_ne_nil keys) fun k hk => hunrendered after hafter k (hdependent k hk)]

def nameTest (op : Operator) : AttributeTest := ⟨.oneOf ["host"],op,some "name","web",false⟩

def prefixedHost : Fields := [("resource_type","host"),("source_","Terraform"),("name","$\x7bvar.prefix\x7d-1")]

/-- A name that starts with a variable passes for one with the wanted start, but not for one without it. -/
theorem unrendered_passes_iff_prefixedHost : exec (nameTest .startsWith).holds prefixedHost = (.ok true,prefixedHost) ∧
      exec (nameTest .notStartsWith).holds prefixedHost = (.ok false,prefixedHost) := by
  have hscope : (TypeNames.oneOf ["host"]).includes prefixedHost = .ok true := by rfl
  have hdependent : isDependent (attributeOf prefixedHost (some "name")) = true := by decide +kernel
  have hholds : ∀ op : Operator, op.heeds = true →
      exec (nameTest op).holds prefixedHost = (.ok !op.turnsRound,prefixedHost) := by
    intro op hop
    have hvalue : (nameTest op).value.text? ≠ some "" := by simp [nameTest,Value.text?]
    have hlook : (nameTest op).look prefixedHost = .ok (prefixedHost,[]) := by
      have hquery : (nameTest op).query? = none := by
        cases op <;> decide +kernel
      rw [look,hquery]
    exact (unrendered_passes_iff hop hvalue rfl hscope).2 prefixedHost [] hlook fun k hk =>
      List.mem_singleton.1 hk ▸ hdependent
  exact ⟨hholds .startsWith rfl,hholds .notStartsWith rfl⟩

/-- One answer stands for all attributes that a test asks about. -/
def Unanimous (t : AttributeTest) (block : Fields) (keys : List String) : Prop :=
  ∃ b, ∀ k ∈ t.asked keys, t.holdsFor block k = .ok b

lemma unanimous_of_length_le_one (h : keys.length ≤ 1) (ha : ∀ k ∈ t.asked keys, ∃ b, t.holdsFor block k = .ok b) :
    t.Unanimous block keys := by
  match keys, h with
  | [],_ => simpa [Unanimous,asked] using ha
  | [k],_ => simpa [Unanimous,asked] using ha

/-- A test with an operator and one with its opposite, asked of the same attributes: they disagree if all attributes
give one answer, as a single one does. Otherwise both hold for a name with `*`, and both fail for a path query. -/
theorem opposite_complements_iff {opp : Operator} (hop : t.operator.opposite? = some opp)
    (hscope : t.types.includes block = .ok true) (hlook : t.look block = .ok (after,keys))
    (hanswers : ∀ k ∈ t.asked keys, ∃ b, t.holdsFor after k = .ok b)
    (hrendered : ∀ k ∈ t.asked keys, isUnrendered after (attributeOf after k) = .ok false) :
    (((exec {t with operator := opp}.holds block).1 = .ok true ↔ (exec t.holds block).1 = .ok false) ↔
        t.Unanimous after keys) ∧
      (keys.length ≤ 1 → t.Unanimous after keys) ∧
      (¬ t.Unanimous after keys →
        exec t.holds block = (.ok !t.byPath,after) ∧ exec {t with operator := opp}.holds block = (.ok !t.byPath,after)) := by
  let t' : AttributeTest := {t with operator := opp}
  have hopposite : ∀ k ∈ t.asked keys, ∀ b, t.holdsFor after k = .ok b → t'.holdsFor after k = .ok !b := by
    intro k hk b hb
    have hturned : t'.holdsFor after k = negated (t.holdsFor after k) := Operator.holds_opposite hop (hrendered k hk)
    rw [hturned,hb]
    rfl
  have hexec : exec t.holds block = (t.settle after (t.asked keys),after) := exec_holds_of_look hscope hlook
  have hexec' : exec t'.holds block = (t'.settle after (t.asked keys),after) := exec_holds_of_look (t := t') hscope hlook
  have hboth : ¬ t.Unanimous after keys →
      exec t.holds block = (.ok !t.byPath,after) ∧ exec t'.holds block = (.ok !t.byPath,after) := by
    intro hdiffer
    have hfound : ∀ c, ∃ k ∈ t.asked keys, t.holdsFor after k = .ok c := by
      intro c
      by_contra hnone
      refine hdiffer ⟨!c,fun k hk => ?_⟩
      obtain ⟨b,hb⟩ := hanswers k hk
      have hbc : b ≠ c := fun heq => hnone ⟨k,hk,heq ▸ hb⟩
      rw [hb,Bool.eq_not.2 hbc]
    have hanswers' : ∀ k ∈ t.asked keys, ∃ b, t'.holdsFor after k = .ok b := by
      intro k hk
      obtain ⟨b,hb⟩ := hanswers k hk
      exact ⟨!b,hopposite k hk b hb⟩
    obtain ⟨k,hk,hanswer⟩ := hfound t.byPath
    have hstop : t'.holdsFor after k = .ok !t'.byPath := hopposite k hk _ hanswer
    rw [hexec,hexec',settle_of_mem hanswers (hfound !t.byPath),settle_of_mem hanswers' ⟨k,hk,hstop⟩]
    exact ⟨rfl,rfl⟩
  refine ⟨⟨fun hiff => ?_,?_⟩,fun h => unanimous_of_length_le_one h hanswers,hboth⟩
  · by_contra hdiffer
    obtain ⟨hholds,hholds'⟩ := hboth hdiffer
    rw [hholds,hholds'] at hiff
    cases hpath : t.byPath <;> simp [hpath] at hiff
  · rintro ⟨b,hb⟩
    have hsettle := settle_of_same (t.asked_ne_nil keys) hb
    have hsettle' := settle_of_same (t := t') (t.asked_ne_nil keys) fun k hk => hopposite k hk b (hb k hk)
    rw [hexec,hexec',hsettle,hsettle']
    cases b <;> simp

def sshTest (op : Operator) : AttributeTest := ⟨.oneOf ["host"],op,some "ports.*","22",false⟩

def twoPorts (first second : String) : Fields :=
  [("resource_type","host"),("source_","Terraform"),("ports.0",.str first),("ports.1",.str second)]

/-- None of the ports is the wanted one. -/
theorem opposite_complements_iff_otherPorts : (exec (sshTest .notEquals).holds (twoPorts "80" "443")).1 = .ok true ↔
      (exec (sshTest .equals).holds (twoPorts "80" "443")).1 = .ok false := by
  let t := sshTest .equals
  have hlook : t.look (twoPorts "80" "443") = .ok (twoPorts "80" "443",["ports.0","ports.1"]) := by cbv
  have hsame : ∀ k ∈ t.asked ["ports.0","ports.1"], t.holdsFor (twoPorts "80" "443") k = .ok false := by decide +kernel
  have hrendered : ∀ k ∈ t.asked ["ports.0","ports.1"],
      isUnrendered (twoPorts "80" "443") (attributeOf (twoPorts "80" "443") k) = .ok false := by decide +kernel
  exact (opposite_complements_iff rfl rfl hlook (fun k hk => ⟨_,hsame k hk⟩) hrendered).1.2 ⟨false,hsame⟩

/-- One port is the wanted one and another is not, so that the test for it and the test for any other both hold. -/
theorem opposite_holds_too :
    (sshTest .equals).look (twoPorts "22" "80") = .ok (twoPorts "22" "80",["ports.0","ports.1"]) ∧
      (∀ k ∈ (sshTest .equals).asked ["ports.0","ports.1"],
        ((sshTest .equals).holdsFor (twoPorts "22" "80") k).isOk = true ∧
          isUnrendered (twoPorts "22" "80") (attributeOf (twoPorts "22" "80") k) = .ok false) ∧
      (sshTest .equals).types.includes (twoPorts "22" "80") = .ok true ∧
      ¬ ((exec (sshTest .notEquals).holds (twoPorts "22" "80")).1 = .ok true ↔
        (exec (sshTest .equals).holds (twoPorts "22" "80")).1 = .ok false) := by
  have hlook : (sshTest .equals).look (twoPorts "22" "80") = .ok (twoPorts "22" "80",["ports.0","ports.1"]) := by cbv
  refine ⟨hlook,?_,rfl,?_⟩
  · decide +kernel
  · decide +kernel

end AttributeTest

end InfraAudit.Policy
