import InfraAudit.Text.Pattern
import Mathlib.Data.List.Basic

/-!
A pattern that needs a character finds no match in a text without it, and what a pattern does at a position depends on what
is left of the text there.
-/

namespace InfraAudit.Text

open List Pat

deriving instance DecidableEq for Pat, Pattern

def Cont.Fails (k : Cont) : Prop := ∀ i spans, k i spans = none

lemma longestFirst_of_fails (hk : k.Fails) (spans : Spans) (i least n : Nat) : longestFirst k spans i least n = none := by
  induction n with
  | zero => simp [longestFirst,hk i spans]
  | succ n ih => simp [longestFirst,hk (i+n+1) spans,ih]

lemma shortestFirst_of_fails (hk : k.Fails) (spans : Spans) (i n more : Nat) : shortestFirst k spans i n more = none := by
  induction more generalizing n with
  | zero => exact hk (i+n) spans
  | succ more ih => simp [shortestFirst,hk (i+n) spans,ih]

lemma run_repeat_of_fails (fuel : Nat) :
    (∀ (p : Pat) (i : Nat) (spans : Spans) (k : Cont), k.Fails → p.run cs fuel i spans k = none) ∧
      ∀ (q : Pat) (least : Nat) (most : Option Nat) (greedy : Bool) (i : Nat) (spans : Spans) (k : Cont),
        k.Fails → q.repeat cs fuel least most greedy i spans k = none := by
  -- Patterns and their repetitions call each other with less fuel.
  induction fuel with
  | zero => exact ⟨fun _ _ _ _ _ => rfl,fun _ _ _ _ _ _ _ _ => rfl⟩
  | succ fuel ih =>
    obtain ⟨hrn,hr⟩ := ih
    constructor
    · intro p i spans k hk
      cases p with
      | empty => exact hk i spans
      | seq a b => exact hrn a i spans _ fun j spans => hrn b j spans k hk
      | alt a b => simp only [run,hrn a i spans k hk,hrn b i spans k hk]
      | group n q => exact hrn q i spans _ fun j spans => hk j _
      | rep q least most greed =>
        simp only [run]
        split
        · cases greed
          · exact longestFirst_of_fails hk _ _ _ _
          · dsimp only
            rw [shortestFirst_of_fails hk,ite_self]
          · simp [hk _ spans]
        · cases greed
          · exact hr q least most true i spans k hk
          · exact hr q least most false i spans k hk
          · dsimp only
            split
            · exact hk _ _
            · rfl
      | ifGroup n a b => simp only [run,hrn a i spans k hk,hrn b i spans k hk,ite_self]
      | lineStart _ | lineEnd _ | textStart | textEnd | boundary _ =>
        simp only [run,hk i spans,ite_self]
      | char _ _ | any _ | cls _ _ _ =>
        simp only [run,hk (i+1) spans,ite_self]
        split <;> rfl
      | again n anyCase =>
        simp only [run]
        split
        · rw [hk,ite_self]
        · rfl
      | ahead _ _ | behind _ _ _ | atomic _ =>
        simp only [run]
        split
        all_goals first | exact hk _ _ | rfl
    · intro q least most greedy i spans k hk
      simp only [Pat.repeat]
      split
      · exact hk i spans
      · cases least with
        | succ n => exact hrn q i spans _ fun j spans => hr q n _ greedy j spans k hk
        | zero =>
          have hm : Cont.Fails (fun j spans =>
              if (j == i) then none else q.repeat cs fuel 0 (most.map (· - 1)) greedy j spans k) :=
            fun j spans => by simp only [hr q 0 _ greedy j spans k hk,ite_self]
          simp only [hrn q i spans _ hm,hk i spans,ite_self]

lemma run_of_fails (p : Pat) (fuel i : Nat) (spans : Spans) (hk : k.Fails) :
    p.run cs fuel i spans k = none := (run_repeat_of_fails fuel).1 p i spans k hk

/-- Every match of the pattern has the character in it. -/
def Pat.needs (c : Char) : Pat → Bool
  | .char d anyCase => !anyCase && c == d
  | .seq a b => a.needs c || b.needs c
  | .alt a b => a.needs c && b.needs c
  | .group _ p => p.needs c
  | .atomic p => p.needs c
  | _ => false

lemma run_of_needs (hc : c ∉ cs.toList) {p : Pat} (hp : p.needs c) (fuel i : Nat)
    (spans : Spans) (k : Cont) : p.run cs fuel i spans k = none := by
  induction p generalizing fuel i spans k with
  | char d anyCase =>
    cases fuel with
    | zero => rfl
    | succ fuel =>
      obtain ⟨rfl,rfl⟩ : anyCase = false ∧ c = d := by simpa [needs] using hp
      cases hd : cs[i]? with
      | none => simp [run,oneChar?,hd]
      | some d =>
        have hne : c ≠ d := by
          rintro rfl
          exact hc (Array.mem_toList_iff.2 (Array.mem_of_getElem? hd))
        simp [run,oneChar?,hd,hne]
  | seq a b iha ihb =>
    cases fuel with
    | zero => rfl
    | succ fuel =>
      rcases Bool.or_eq_true_iff.1 hp with ha | hb
      · exact iha ha fuel i spans _
      · exact run_of_fails a fuel i spans fun j spans => ihb hb fuel j spans k
  | alt a b iha ihb =>
    cases fuel with
    | zero => rfl
    | succ fuel =>
      obtain ⟨ha,hb⟩ := Bool.and_eq_true_iff.1 hp
      simp only [run,iha ha,ihb hb]
  | group n p ih =>
    cases fuel with
    | zero => rfl
    | succ fuel => exact ih hp fuel i spans _
  | atomic p ih =>
    cases fuel with
    | zero => rfl
    | succ fuel => simp only [run,ih hp]
  | _ => simp [needs] at hp

namespace Pattern

variable {p : Pattern}

lemma matchWith_of_needs (hp : p.tree.needs c) (hc : c ∉ cs.toList) (i : Nat) (accept : Nat → Bool) :
    p.matchWith cs i accept = none := by
  simp only [matchWith,run_of_needs hc hp]

lemma search?_eq_some (h : p.matchWith s.toList.toArray 0 (fun _ => true) = some m) : p.search? s = some m := by
  simp only [search?]
  generalize s.toList.toArray.size = n
  cases n with
  | zero => exact h
  | succ n => simp only [searchWith,h]

lemma matchStart?_of_needs (hp : p.tree.needs c) (hc : c ∉ s.toList) : p.matchStart? s = none :=
  matchWith_of_needs hp (by simpa using hc) 0 _

lemma occursIn_of_needs (hp : p.tree.needs c) (hc : c ∉ s.toList) : p.occursIn s = false := by
  have hs : ∀ n i, p.searchWith s.toList.toArray (fun _ _ => true) i n = none := by
    intro n
    induction n with
    | zero => exact fun i => matchWith_of_needs hp (by simpa using hc) i _
    | succ n ih =>
      intro i
      simp only [searchWith,matchWith_of_needs hp (by simpa using hc : c ∉ s.toList.toArray.toList),ih]
  simp only [occursIn,search?,hs]
  rfl

end Pattern

def LeftAt (cs : Array Char) (i : Nat) (r : List Char) : Prop := cs.toList.drop i = r

namespace LeftAt

lemma start {s : String} (h : s.toList = r) : LeftAt s.toList.toArray 0 r := by simp [LeftAt,h]

lemma append (h : LeftAt cs i (u ++ v)) : LeftAt cs (i+u.length) v := by rw [LeftAt,← drop_drop,h,drop_left]

lemma getElem?_eq (h : LeftAt cs i (c::v)) : cs[i]? = some c := by
  have hg : (cs.toList.drop i)[0]? = some c := by rw [h]; rfl
  simpa using hg

lemma length_eq (h : LeftAt cs i v) : v.length = cs.size - i := by
  rw [← h]
  simp

lemma extract_eq (h : LeftAt cs i (u ++ v)) : (cs.extract i (i+u.length)).toList = u := by
  rw [Array.toList_extract,extract_eq_take_drop,h]
  simp

lemma behind (h : LeftAt cs i (u ++ c :: v)) : LeftAt cs (i+u.length+1) v := append (u := [c]) h.append

lemma inside (h : LeftAt cs i (u ++ v)) (hj : j < u.length) : ∃ d t, d ∈ u ∧ LeftAt cs (i+j) (d::t) := by
  refine ⟨u[j],u.drop (j+1) ++ v,getElem_mem hj,?_⟩
  rw [LeftAt,← drop_drop,h,drop_append_of_le_length (Nat.le_of_lt hj),drop_eq_getElem_cons hj,cons_append]

end LeftAt

lemma runLength_eq {u v : List Char} (hu : ∀ c ∈ u, p c)
    (hv : ∀ c, v.head? = some c → p c = false) (h : LeftAt cs i (u ++ v))
    (hl : u.length ≤ limit) : runLength cs p limit i = u.length := by
  induction u generalizing i limit with
  | nil =>
    cases limit with
    | zero => rfl
    | succ limit =>
      cases v with
      | nil =>
        have hln := h.length_eq
        have hn : cs[i]? = none := by
          simp at hln ⊢
          omega
        simp [runLength,hn]
      | cons c v => simp [runLength,h.getElem?_eq,hv c rfl]
  | cons c u ih =>
    obtain ⟨limit,rfl⟩ : ∃ k, limit = k+1 := ⟨limit - 1,by simp at hl; omega⟩
    have hr := ih (fun d hd => hu d (by simp [hd])) (LeftAt.append (u := [c]) h) (by simpa using hl)
    simp only [cons_append] at h
    simp only [length_singleton] at hr
    simp [runLength,h.getElem?_eq,hu c (by simp),hr]

lemma longestFirst_eq_some_of_unique (hl : least ≤ m) (hm : m ≤ n)
    (hu : ∀ j, m < j → j ≤ n → k (i+j) spans = none ∨ k (i+j) spans = some x) (hk : k (i+m) spans = some x) :
    longestFirst k spans i least n = some x := by
  induction n with
  | zero =>
    obtain rfl : m = 0 := by omega
    simpa [longestFirst,Nat.le_zero.1 hl] using hk
  | succ n ih =>
    have hln : ¬ n+1 < least := by omega
    rcases Nat.eq_or_lt_of_le hm with rfl | hlt
    · have hk : k (i+n+1) spans = some x := hk
      simp [longestFirst,hln,hk]
    · have hr := ih (by omega) fun j hj hjn => hu j hj (by omega)
      have hs : k (i+n+1) spans = none ∨ k (i+n+1) spans = some x := hu (n+1) hlt (Nat.le_refl _)
      rcases hs with hs | hs <;> simp [longestFirst,hln,hs,hr]

lemma longestFirst_eq_some (hl : least ≤ n) (hk : k (i+n) spans = some x) : longestFirst k spans i least n = some x :=
  longestFirst_eq_some_of_unique hl (Nat.le_refl n) (fun _ hj hjn => absurd hjn (Nat.not_le.2 hj)) hk

lemma longestFirst_eq_none
    (h : ∀ j, least ≤ j → j ≤ n → k (i+j) spans = none) : longestFirst k spans i least n = none := by
  induction n with
  | zero =>
    by_cases hl : least = 0
    · simpa [longestFirst,hl] using h 0 (by omega) (Nat.le_refl 0)
    · simp [longestFirst,hl]
  | succ n ih =>
    have hs := ih fun j hj hjn => h j hj (by omega)
    by_cases hl : n+1 < least
    · simp [longestFirst,hl]
    · have hls : k (i+n+1) spans = none := h (n+1) (by omega) (Nat.le_refl _)
      simp [longestFirst,hl,hls,hs]

lemma shortestFirst_eq_some (hn : n ≤ m)
    (hm : m ≤ n+more) (hnn : ∀ j, n ≤ j → j < m → k (i+j) spans = none) (hk : k (i+m) spans = some x) :
    shortestFirst k spans i n more = some x := by
  induction more generalizing n with
  | zero =>
    obtain rfl : n = m := by omega
    exact hk
  | succ more ih =>
    rcases Nat.eq_or_lt_of_le hn with rfl | hlt
    · simp [shortestFirst,hk]
    · simp only [shortestFirst,hnn n (Nat.le_refl n) hlt]
      exact ih hlt (by omega) fun j hj hjm => hnn j (by omega) hjm

lemma runLength_any (hl : '\n' ∉ r) (h : LeftAt cs i r) :
    runLength cs (fun d => false || d != '\n') (cs.size - i) i = r.length := by
  have ha : ∀ c ∈ r, (false || c != '\n') := by
    intro c hc
    have hne : c ≠ '\n' := fun heq => hl (heq ▸ hc)
    simpa using hne
  refine runLength_eq ha (v := []) (by simp) (by simpa using h) ?_
  exact Nat.le_of_eq h.length_eq

lemma run_char (h : LeftAt cs i (c::r)) (fuel : Nat) : (char c false).run cs (fuel+1) i spans k = k (i+1) spans := by
  simp [run,oneChar?,h.getElem?_eq]

lemma run_char_eq_none (hd : d ≠ c) (h : LeftAt cs i (d::r)) (fuel : Nat) :
    (char c false).run cs (fuel+1) i spans k = none := by
  simp [run,oneChar?,h.getElem?_eq,hd.symm]

end InfraAudit.Text
