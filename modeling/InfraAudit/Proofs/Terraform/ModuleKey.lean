import InfraAudit.Proofs.Text.Dotted
import InfraAudit.Proofs.Text.Matching
import InfraAudit.Terraform.ModulePath

/-!
Keys of called modules: a path, with the caller and the number of the call in brackets. Greedy matching and a search for the
first bracket read the same parts back, whatever brackets and marks the caller and the number have.
-/

namespace InfraAudit.Text

open List Option

variable {cs : Array Char} {i n len : Nat} {c : Char}

lemma LeftAt.drop (h : LeftAt cs i r) (n : Nat) : LeftAt cs (i+n) (r.drop n) := by rw [LeftAt,← drop_drop,h]

lemma LeftAt.getElem?_nil (h : LeftAt cs i []) : cs[i]? = none := by
  have hl := h.length_eq
  simp at hl ⊢
  omega

lemma run_char_of_head (hc : r.head? ≠ some c)
    (h : LeftAt cs i r) (fuel : Nat) : (Pat.char c false).run cs (fuel+1) i spans k = none := by
  cases r with
  | nil => simp [Pat.run,Pat.oneChar?,h.getElem?_nil]
  | cons d r => exact run_char_eq_none (by simpa using hc) h fuel

/-- Up to its last character the first occurrence is not there yet. -/
lemma find?_eq_some {s pat : String} (hs : s.toList = x ++ pat.toList ++ y)
    (hu : x ++ pat.toList = u ++ [c]) (hn : ¬ pat.toList <:+: u) : find? s pat = some x.length := by
  obtain ⟨j,hj⟩ := isSome_iff_exists.1 (findFrom_isSome_of_append pat.toList x y 0)
  have hle := le_of_findFrom hj rfl
  rw [find?,hs,hj]
  obtain ⟨x',y',hx,rfl⟩ := findFrom_eq_some hj
  by_contra hne
  have hlt : x'.length < x.length := Nat.lt_of_le_of_ne (by omega) fun h => hne (by rw [h,Nat.zero_add])
  have hp : x' ++ pat.toList <+: u := by
    refine prefix_of_prefix_length_le ⟨y',hx.symm⟩ ⟨c::y,by simp [hu]⟩ ?_
    have hl := congrArg length hu
    simp at hl ⊢
    omega
  exact hn ((suffix_append x' _).isInfix.trans hp.isInfix)

lemma Pattern.searchWith_eq_some {p : Pattern} (accept : Nat → Nat → Bool)
    (hx : p.matchWith cs m (accept m) = some x) (hi : i ≤ m) (hn : m ≤ i+n)
    (hnn : ∀ j, i ≤ j → j < m → p.matchWith cs j (accept j) = none) : p.searchWith cs accept i n = some x := by
  induction n generalizing i with
  | zero =>
    obtain rfl : i = m := by omega
    simpa [searchWith] using hx
  | succ n ih =>
    rcases Nat.eq_or_lt_of_le hi with rfl | hlt
    · simp [searchWith,hx]
    · simp only [searchWith,hnn i (Nat.le_refl i) hlt]
      exact ih hlt (by omega) fun j hj hjm => hnn j (by omega) hjm

lemma clampIndex_eq (h : n ≤ len) {i : Int} (hi : i = n) : clampIndex len i = n := by simp [hi,clampIndex,h]

lemma clampIndex_last (h : len = n+1) : clampIndex len (-1) = n := by simp [clampIndex,h]

lemma slice_eq {s : String} {c : List Char} (hs : s.toList = a ++ b ++ c) {i j : Int}
    (hi : clampIndex s.toList.length i = a.length) (hj : clampIndex s.toList.length j = a.length+b.length) :
    slice s (some i) (some j) = String.ofList b := by
  have hab : a.length+b.length = (a ++ b).length := by simp
  rw [slice,sliceList,map_some,map_some,hi,hj,hs,getD_some,getD_some,hab,take_left,drop_left]

end InfraAudit.Text

namespace InfraAudit.Terraform.ModulePath

open Text (Pat LeftAt Spans Cont)
open List Text Pattern Pat Found

/-- What has to hold for a key to be read back: brackets and marks may stand in the caller and the number. -/
structure IsReadable (m : ModulePath) : Prop where
  path : '[' ∉ m.path.toList
  ends : endsWith m.caller ".tf" = true
  once : Text.contains m.caller ".tf#" = false
  number : m.number ≠ ""
  line : '\n' ∉ m.caller.toList ++ m.number.toList

def middle : Pat := .seq (.char '#' false) (.seq (.rep (.any false) 1 none .greedy) (.char ']' false))

def markPat : Pat := .seq (.char '[' false) (.seq (.rep (.any false) 1 none .greedy) middle)

lemma callMark_eq : callMark = ⟨markPat,0,[]⟩ := by decide +kernel

section

variable {cs : Array Char} {i : Nat} {spans : Spans} {k : Cont} {x : Nat × Spans}

/-- The last mark closes, whatever brackets stand before it. -/
lemma run_anyToLast (hl : '\n' ∉ u ++ [c]) (h : LeftAt cs i (u ++ [c]))
    (hk : k (i+u.length+1) spans = some x) (fuel more : Nat) : (rep (.any false) 1 none .greedy).run cs (fuel+1) i spans
      (fun j spans => (char c false).run cs (more+1) j spans k) = if u = [] then none else some x := by
  have he : (char c false).run cs (more+1) (i+(u.length+1)) spans k = none :=
    run_char_of_head (r := []) (by simp) h.behind more
  rw [run]
  simp only [oneChar?,runLength_any hl h]
  split
  · next hu =>
    subst hu
    refine longestFirst_eq_none fun j hj hn => ?_
    obtain rfl : j = 1 := Nat.le_antisymm hn hj
    exact he
  · next hu =>
    refine longestFirst_eq_some_of_unique (length_pos_of_ne_nil hu) (by simp) (fun j hj hn => .inl ?_) ?_
    · obtain rfl : j = u.length+1 := by
        simp at hn
        omega
      exact he
    · exact (run_char h.append more).trans hk

lemma run_middle (h : LeftAt cs i ('#' :: (v ++ [']']))) (hl : '\n' ∉ v)
    (hk : k (i+1+v.length+1) spans = some x) (fuel : Nat) :
    middle.run cs (fuel+3) i spans k = if v = [] then none else some x := by
  rw [middle,run,run_char h,run]
  exact run_anyToLast (by simpa using hl) (LeftAt.append (u := ['#']) h) hk _ _

/-- From any mark in the middle that does not stand at the end the pattern comes to the end. -/
lemma run_middle_or (h : LeftAt cs i r) (hl : '\n' ∉ r) (he : ∀ c ∈ r.getLast?, c = ']')
    (hk : k (i+r.length) spans = some x) (fuel : Nat) :
    middle.run cs (fuel+3) i spans k = none ∨ middle.run cs (fuel+3) i spans k = some x := by
  by_cases hr : r.head? = some '#'
  · obtain ⟨r,rfl⟩ := head?_eq_some_iff.1 hr
    rcases eq_nil_or_concat' r with rfl | ⟨v,c,rfl⟩
    · simp at he
    · obtain rfl : c = ']' := he c (by simp [getLast?_cons])
      have hk : k (i+1+v.length+1) spans = some x := by
        rw [← hk]
        congr 1
        simp
        omega
      rw [run_middle h (by simp_all) hk]
      split
      · exact .inl rfl
      · exact .inr rfl
  · left
    rw [middle,run]
    exact run_char_of_head hr h _

lemma run_markPat (hd : d ≠ []) (hn : n ≠ []) (hl : '\n' ∉ d ++ n) (h : LeftAt cs i ('[' :: (d ++ '#' :: (n ++ [']']))))
    (hk : k (i+(d.length+n.length+3)) spans = some x) (fuel : Nat) : markPat.run cs (fuel+5) i spans k = some x := by
  have hln : '\n' ∉ d ++ '#' :: (n ++ [']']) := by simpa using hl
  have hb : LeftAt cs (i+1) (d ++ '#' :: (n ++ [']'])) := LeftAt.append (u := ['[']) h
  rw [markPat,run,run_char h,run,run]
  simp only [oneChar?,runLength_any hln hb]
  refine longestFirst_eq_some_of_unique (m := d.length) (length_pos_of_ne_nil hd) (by simp) (fun j _ hj => ?_) ?_
  · refine run_middle_or (hb.drop j) (fun hm => hln (mem_of_mem_drop hm)) ?_ ?_ fuel
    · simp [getLast?_drop,getLast?_cons]
    · rw [← hk]
      simp at hj ⊢
      congr 1
      omega
  · rw [run_middle hb.append (by simp_all) ?_,if_neg hn]
    rw [← hk]
    congr 1
    omega

lemma matchWith_callMark_none (hr : r.head? ≠ some '[') (h : LeftAt cs i r) (accept : Nat → Bool) :
    callMark.matchWith cs i accept = none := by
  have hn : ∀ spans k, markPat.run cs (fuel ⟨markPat,0,[]⟩ cs) i spans k = none := by
    intro spans k
    rw [markPat,fuel,run]
    exact run_char_of_head hr h _
  rw [callMark_eq,matchWith]
  simp only [hn]

lemma matchWith_callMark (hd : d ≠ []) (hn : n ≠ []) (hl : '\n' ∉ d ++ n)
    (h : LeftAt cs i ('[' :: (d ++ '#' :: (n ++ [']']))))
    (ha : accept (i+(d.length+n.length+3))) :
    callMark.matchWith cs i accept = some ⟨cs,#[some (i,i+(d.length+n.length+3))],[]⟩ := by
  obtain ⟨fuel,hf⟩ : ∃ f, fuel ⟨markPat,0,[]⟩ cs = f+5 := ⟨_,rfl⟩
  rw [callMark_eq,matchWith]
  simp only [hf]
  rw [run_markPat hd hn hl h (if_pos ha)]
  rfl

end

lemma toList_key (m : ModulePath) :
    m.key.toList = m.path.toList ++ '[' :: (m.caller.toList ++ '#' :: (m.number.toList ++ [']'])) := by
  simp [key]

section

variable {m : ModulePath}

lemma exists_stem {path : String} (h : endsWith path ".tf") : ∃ stem, path.toList = stem ++ ['.','t','f'] := by
  obtain ⟨stem,hs⟩ := isSuffixOf_iff_suffix.1 h
  exact ⟨stem,hs.symm⟩

lemma findAll_key (hm : IsReadable m) : callMark.findAll m.key =
    [⟨m.key.toList.toArray,#[some (m.path.toList.length,m.key.toList.length)],[]⟩] := by
  have hs : LeftAt m.key.toList.toArray 0 (m.path.toList ++ _) := LeftAt.start (toList_key m)
  have hsz : m.key.toList.length = m.path.toList.length+(m.caller.toList.length+m.number.toList.length+3) := by
    rw [toList_key]
    simp
    omega
  obtain ⟨stem,hst⟩ := exists_stem hm.ends
  have hmt : callMark.matchWith m.key.toList.toArray m.path.toList.length (fun j => some j != none) = some
      ⟨m.key.toList.toArray,#[some (m.path.toList.length,m.key.toList.length)],[]⟩ := by
    rw [hsz]
    refine matchWith_callMark (by simp [hst]) (by simpa using hm.number) hm.line ?_ rfl
    simpa using hs.append
  have hb : ∀ j < m.path.toList.length, callMark.matchWith m.key.toList.toArray j (fun j => some j != none) = none := by
    intro j hj
    refine matchWith_callMark_none ?_ (Nat.zero_add j ▸ hs.drop j) _
    rw [head?_drop,getElem?_append_left hj,getElem?_eq_getElem hj]
    intro hbr
    exact hm.path (Option.some.inj hbr ▸ getElem_mem hj)
  have ha : ∀ accept, callMark.matchWith m.key.toList.toArray m.key.toList.length accept = none :=
    matchWith_callMark_none (r := []) (by simp) (by simp [LeftAt])
  have hsr := Pattern.searchWith_eq_some (fun _ j => some j != none) hmt (Nat.zero_le _)
    (by omega : _ ≤ 0+m.key.toList.length) fun j _ hj => hb j hj
  have hst : stop ⟨m.key.toList.toArray,#[some (m.path.toList.length,m.key.toList.length)],[]⟩ =
      m.key.toList.length := rfl
  simp only [Pattern.findAll,size_toArray,Pattern.findFrom,hsr,Nat.not_lt_zero,if_false,Nat.sub_zero,
    hst,Nat.lt_irrefl,Nat.sub_self,Pattern.searchWith,ha]

lemma splitMark_eq (hm : IsReadable m) {s : String}
    (hs : s.toList = '[' :: (m.caller.toList ++ '#' :: (m.number.toList ++ [']']))) :
    splitMark s = .ok (m.caller,m.number) := by
  obtain ⟨stem,hst⟩ := exists_stem hm.ends
  have hf : find? s ".tf#" = some (stem.length+1) := by
    refine find?_eq_some (x := '[' :: stem) (y := m.number.toList ++ [']']) (u := '[' :: m.caller.toList) (c := '#')
      (by simp [hs,hst]) (by simp [hst]) fun hin => ?_
    rcases infix_cons_iff.1 hin with hp | hin
    · simp at hp
    · exact Bool.false_ne_true (hm.once.symm.trans (contains_iff.2 hin))
  have hl := congrArg length hs
  simp [hst] at hl
  have hcl : slice s (some 1) (some (((stem.length+1 : Nat) : Int)+3)) = m.caller := by
    rw [slice_eq (a := ['[']) (b := m.caller.toList) (by simpa using hs)]
    · exact String.ofList_toList
    · exact clampIndex_eq (by simp; omega) rfl
    · exact clampIndex_eq (by simp [hst]; omega) (by simp [hst]; omega)
  have hnm : slice s (some (((stem.length+1 : Nat) : Int)+4)) (some (-1)) = m.number := by
    rw [slice_eq (a := '[' :: (m.caller.toList ++ ['#'])) (b := m.number.toList) (c := [']']) (by simpa using hs)]
    · exact String.ofList_toList
    · exact clampIndex_eq (by simp [hst]; omega) (by simp [hst]; omega)
    · exact clampIndex_last (by simp [hst]; omega)
  rw [splitMark,hf]
  exact congrArg Except.ok (Prod.ext hcl hnm)

lemma read_key (hm : IsReadable m) : read m.key = .ok m := by
  have hw : (whole ⟨m.key.toList.toArray,#[some (m.path.toList.length,m.key.toList.length)],[]⟩).toList =
      '[' :: (m.caller.toList ++ '#' :: (m.number.toList ++ [']'])) := by
    simp [whole,group?,toList_key]
  have hp : callMark.replace m.key "" = m.path := by
    simp [Pattern.replace,Pattern.replaceWith,findAll_key hm,start,stop,toList_key]
  simp only [read,findAll_key hm,map_cons,map_nil,isEmpty_cons,splitMarks,splitMark_eq hm hw,hp]
  rfl

lemma endsWith_key (m : ModulePath) : endsWith m.key "]" := by
  rw [endsWith,isSuffixOf_iff_suffix,toList_key]
  exact ⟨m.path.toList ++ '[' :: (m.caller.toList ++ '#' :: m.number.toList),by simp⟩

lemma stripCaller_key (h : '[' ∉ m.path.toList) : stripCaller m.key = (m.path,some (m.caller ++ "#" ++ m.number)) := by
  have hi : Text.find? m.key "[" = some m.path.toList.length :=
    find?_eq_some (y := m.caller.toList ++ '#' :: (m.number.toList ++ [']'])) (by simp [toList_key]) rfl
      (mt (singleton_infix_iff '[' _).1 h)
  have hc : Text.contains m.key "[" = true := by rw [Text.contains,hi,Option.isSome_some]
  have hl := congrArg length (toList_key m)
  rw [stripCaller,endsWith_key,hc,hi]
  refine Prod.ext ?_ (congrArg some ?_)
  · simp [Text.take,toList_key]
  · rw [slice_eq (a := m.path.toList ++ ['[']) (b := (m.caller ++ "#" ++ m.number).toList) (c := [']'])]
    · exact String.ofList_toList
    · simp [toList_key]
    · exact clampIndex_eq (by simp at hl ⊢; omega) (by simp)
    · exact clampIndex_last (by simp at hl ⊢; omega)

/-- The parts of a key are read back, by its mark or by its first bracket. -/
theorem key_reads_back (hm : IsReadable m) :
    read m.key = .ok m ∧ stripCaller m.key = (m.path,some (m.caller ++ "#" ++ m.number)) :=
  ⟨read_key hm,stripCaller_key hm.path⟩

def bracketedCall : ModulePath := ⟨"a].tf","x[1]#[y].tf","0#].tf"⟩

theorem key_reads_back_bracketed : read "a].tf[x[1]#[y].tf#0#].tf]" = .ok bracketedCall ∧
    stripCaller "a].tf[x[1]#[y].tf#0#].tf]" = ("a].tf",some "x[1]#[y].tf#0#].tf") :=
  key_reads_back (m := bracketedCall) ⟨by decide,by decide,by decide,by decide,by decide⟩

end

end InfraAudit.Terraform.ModulePath
