import Mathlib
import InfraAudit.Packages.Version

/-!
The order of versions, and the version that mends all findings of a package. Versions are ordered by parts that each have a
total order, so the extremes that the search takes are those of that order.
-/

namespace InfraAudit.Packages

open List

open Std (TransOrd TransCmp OrientedCmp ReflCmp)

instance : TransOrd LocalPart := inferInstanceAs (TransCmp (compareLex _ _))

instance : TransOrd Numbered := inferInstanceAs (TransCmp (compareLex _ _))

namespace Version

variable {fixes : List (List Version)} {vs : List Version} {u v w m : Version}

instance : TransOrd Version := inferInstanceAs (TransCmp (compareLex _ _))

instance : LE Version := ⟨fun v w => w.lt v = false⟩

instance : DecidableLE Version := fun v w => inferInstanceAs (Decidable (w.lt v = false))

lemma le_iff : v ≤ w ↔ (compare v w).isLE := by
  show (compare w v == .lt) = false ↔ _
  rw [@OrientedCmp.eq_swap _ compare _ w v]
  cases compare v w <;> decide

instance : Preorder Version where
  le_refl v := le_iff.2 (by rw [@ReflCmp.compare_self _ compare _ v]; rfl)
  le_trans u v w huv hvw := le_iff.2 (TransCmp.isLE_trans (le_iff.1 huv) (le_iff.1 hvw))

lemma le_of_lt (h : v.lt w) : v ≤ w := by
  rw [le_iff,beq_iff_eq.1 h]
  rfl

/-- A walk that goes on with the better of two ends at one of the best. -/
lemma best_of_walk {R : Version → Version → Prop} {step : Version → Version → Version} (hr : ∀ v, R v v)
    (ht : ∀ {u v w}, R u v → R v w → R u w) (hs : ∀ m w, step m w ∈ [m,w] ∧ R (step m w) m ∧ R (step m w) w)
    (v : Version) (vs : List Version) : vs.foldl step v ∈ v::vs ∧ ∀ w ∈ v::vs, R (vs.foldl step v) w := by
  induction vs generalizing v with
  | nil => simpa using hr v
  | cons w vs ih =>
    obtain ⟨hm,hl⟩ := ih (step v w)
    obtain ⟨hx,hl⟩ := forall_mem_cons.1 hl
    refine ⟨?_,forall_mem_cons.2 ⟨ht hx (hs v w).2.1,forall_mem_cons.2 ⟨ht hx (hs v w).2.2,hl⟩⟩⟩
    rcases mem_cons.1 hm with heq | hm
    · rw [foldl_cons,heq]
      exact mem_append_left vs (hs v w).1
    · exact mem_cons_of_mem _ (mem_cons_of_mem _ hm)

lemma lowest?_eq_some (h : lowest? vs = some m) : m ∈ vs ∧ ∀ v ∈ vs, m ≤ v := by
  cases vs with
  | nil => cases h
  | cons v vs =>
    cases h
    refine best_of_walk le_refl le_trans (fun m w => ?_) v vs
    cases hb : w.lt m with
    | false => exact ⟨by simp,le_refl m,hb⟩
    | true => exact ⟨by simp,le_of_lt hb,le_refl w⟩

lemma highest?_eq_some (h : highest? vs = some m) : m ∈ vs ∧ ∀ v ∈ vs, v ≤ m := by
  cases vs with
  | nil => cases h
  | cons v vs =>
    cases h
    refine best_of_walk (R := fun m w => w ≤ m) le_refl (fun h h' => le_trans h' h) (fun m w => ?_) v vs
    cases hb : m.lt w with
    | false => exact ⟨by simp,le_refl m,hb⟩
    | true => exact ⟨by simp,le_of_lt hb,le_refl w⟩

lemma exists_extremes (h : v ∈ vs) : ∃ m m', lowest? vs = some m ∧ highest? vs = some m' := by
  cases vs with
  | nil => cases h
  | cons => exact ⟨_,_,rfl,rfl⟩

/-- A lowest version of one of the lists. -/
def IsMinimum (fixes : List (List Version)) (m : Version) : Prop := ∃ vs ∈ fixes, m ∈ vs ∧ ∀ v ∈ vs, m ≤ v

lemma isMinimum_of_mem (h : m ∈ fixes.filterMap lowest?) : IsMinimum fixes m := by
  obtain ⟨vs,hvs,hm⟩ := mem_filterMap.1 h
  exact ⟨vs,hvs,lowest?_eq_some hm⟩

lemma exists_minimum (hvs : vs ∈ fixes) (hne : vs ≠ []) : ∃ m ∈ vs, m ∈ fixes.filterMap lowest? := by
  obtain ⟨v,hv⟩ := exists_mem_of_ne_nil vs hne
  obtain ⟨m,-,hm,-⟩ := exists_extremes hv
  exact ⟨m,(lowest?_eq_some hm).1,mem_filterMap.2 ⟨vs,hvs,hm⟩⟩

theorem compliant_meets_lists (hord : ∀ v ∈ fixes.flatten, v.major?.isSome) (hne : ∃ vs ∈ fixes, vs ≠ [])
    (hmono : ∀ v ∈ fixes.flatten, ∀ w ∈ fixes.flatten, v ≤ w → ∀ a ∈ v.major?, ∀ b ∈ w.major?, a ≤ b) :
    ∃ r, compliant? fixes = some r ∧ r ∈ fixes.flatten ∧
      (∀ vs ∈ fixes, vs ≠ [] → ∃ v ∈ vs, v ≤ r ∧ ((∃ w ∈ vs, w.major? = r.major?) → v.major? = r.major?)) ∧
      ((∀ m m', IsMinimum fixes m → IsMinimum fixes m' → m.major? = m'.major?) →
        (∀ m, IsMinimum fixes m → m ≤ r) ∧ ∀ w, (∀ m, IsMinimum fixes m → m ≤ w) → r ≤ w) := by
  have hin : ∀ m ∈ fixes.filterMap lowest?, m ∈ fixes.flatten ∧ ∃ a, m.major? = some a := by
    intro m hm
    obtain ⟨vs,hvs,hmv,-⟩ := isMinimum_of_mem hm
    have hf := mem_flatten_of_mem hvs hmv
    exact ⟨hf,Option.isSome_iff_exists.1 (hord m hf)⟩
  obtain ⟨vs,hvs,hne⟩ := hne
  obtain ⟨m,-,hm⟩ := exists_minimum hvs hne
  obtain ⟨low,high,hlow,hhigh⟩ := exists_extremes hm
  obtain ⟨hlm,hll⟩ := lowest?_eq_some hlow
  obtain ⟨hhm,hhl⟩ := highest?_eq_some hhigh
  obtain ⟨hlf,a,ha⟩ := hin low hlm
  obtain ⟨hhf,b,hb⟩ := hin high hhm
  have hc : compliant? fixes = if a = b then some high else
      highest? (fixes.flatten.filter fun v => v.major? == some b) := by
    simp [compliant?,hlow,hhigh,ha,hb]
  rw [hc]
  split
  · next hab =>
    refine ⟨high,rfl,hhf,fun vs hvs hne => ?_,fun _ => ⟨fun m ⟨vs,hvs,hmv,hle⟩ => ?_,fun w hw => hw high (isMinimum_of_mem hhm)⟩⟩
    -- All minima lie between the two extremes, and so do their major numbers.
    · obtain ⟨m,hmv,hm⟩ := exists_minimum hvs hne
      obtain ⟨hmf,k,hk⟩ := hin m hm
      have hak := hmono low hlf m hmf (hll m hm) a ha k hk
      have hkb := hmono m hmf high hhf (hhl m hm) k hk b hb
      exact ⟨m,hmv,hhl m hm,fun _ => by rw [hk,hb,show k = b by omega]⟩
    · obtain ⟨m',hmv',hm'⟩ := exists_minimum hvs (ne_nil_of_mem hmv)
      exact (hle m' hmv').trans (hhl m' hm')
  · next hab =>
    have hf : high ∈ fixes.flatten.filter fun v => v.major? == some b := mem_filter.2 ⟨hhf,beq_iff_eq.2 hb⟩
    obtain ⟨-,r,-,hr⟩ := exists_extremes hf
    obtain ⟨hrm,hrl⟩ := highest?_eq_some hr
    obtain ⟨hrf,hrb⟩ := mem_filter.1 hrm
    refine ⟨r,hr,hrf,fun vs hvs hne => ?_,fun hsame => absurd ?_ hab⟩
    · by_cases hw : ∃ w ∈ vs, w.major? = r.major?
      · obtain ⟨w,hwv,hwm⟩ := hw
        exact ⟨w,hwv,hrl w (mem_filter.2 ⟨mem_flatten_of_mem hvs hwv,hwm ▸ hrb⟩),fun _ => hwm⟩
      · obtain ⟨m,hmv,hm⟩ := exists_minimum hvs hne
        exact ⟨m,hmv,(hhl m hm).trans (hrl high hf),fun h => absurd h hw⟩
    · have hs := hsame low high (isMinimum_of_mem hlm) (isMinimum_of_mem hhm)
      rw [ha,hb] at hs
      exact Option.some.inj hs

/-- The lowest of the lists are of two major numbers, and one list is empty. -/
def mixedMajors : List (List Version) :=
  [[.numbered {release := [1,2]},.numbered {release := [2,6]}],[],[.numbered {release := [2,0]},.numbered {release := [3,5]}],
    [.numbered {release := [2,4], pre := some (.candidate,1)}]]

theorem compliant_meets_lists_mixedMajors : ∃ r, compliant? mixedMajors = some r ∧ r ∈ mixedMajors.flatten ∧
    ∀ vs ∈ mixedMajors, vs ≠ [] → ∃ v ∈ vs, v ≤ r ∧ ((∃ w ∈ vs, w.major? = r.major?) → v.major? = r.major?) :=
  have ⟨r,hr,hm,hvs,_⟩ := @compliant_meets_lists mixedMajors (by decide) ⟨_,mem_cons_self,by decide⟩ (by decide +kernel)
  ⟨r,hr,hm,hvs⟩

end Version

end InfraAudit.Packages
