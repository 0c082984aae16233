import InfraAudit.Proofs.Terraform.VariableUse
import InfraAudit.Terraform.Evaluation

namespace InfraAudit.Terraform

open List Text

variable {b : VarBlock}

/-- Characters that mark an interpolation or stand as quotes around it. -/
def isMark (c : Char) : Bool := c == '$' || c == '\x7b' || c == '\x7d' || c == '\''

/-- The second text is the first with some of its marks left out. -/
inductive Unmarked : List Char → List Char → Prop where
  | nil : Unmarked [] []
  | keep (c : Char) {s t : List Char} : Unmarked s t → Unmarked (c::s) (c::t)
  | drop {c : Char} {s t : List Char} : isMark c → Unmarked s t → Unmarked (c::s) t

namespace Unmarked

lemma refl (s : List Char) : Unmarked s s := by
  induction s with
  | nil => exact .nil
  | cons c s ih => exact .keep c ih

lemma trans {a b c : List Char} (hab : Unmarked a b) (hbc : Unmarked b c) : Unmarked a c := by
  induction hab generalizing c with
  | nil => exact hbc
  | keep d _ ih =>
    cases hbc with
    | keep _ h => exact .keep d (ih h)
    | drop hd h => exact .drop hd (ih h)
  | drop hd _ ih => exact .drop hd (ih hbc)

lemma append {a b c d : List Char} (hab : Unmarked a b) (hcd : Unmarked c d) : Unmarked (a ++ c) (b ++ d) := by
  induction hab with
  | nil => exact hcd
  | keep e _ ih => exact .keep e ih
  | drop he _ ih => exact .drop he ih

lemma replaceAux (h : Unmarked old new) (hold : old ≠ []) (s : List Char) : Unmarked s (replaceAux old new 0 s) := by
  induction s using occurrence_induction hold with
  | nil => exact .nil
  | append r ih =>
    rw [replaceAux_append new r hold]
    exact h.append ih
  | cons c r hn ih =>
    rw [replaceAux_cons_of_not new hn]
    exact .keep c ih

lemma replace {old new : String} (h : Unmarked old.toList new.toList) (hold : old ≠ "") (s : String) :
    Unmarked s.toList (Text.replace s old new).toList := by
  have hne : old.toList ≠ [] := by simpa using hold
  rw [Text.replace,Text.replaceChars,if_neg (by simpa using hne),String.toList_ofList]
  exact h.replaceAux hne s.toList

lemma exists_append (plain : ∀ c ∈ m, isMark c = false)
    (h : Unmarked (x ++ m ++ y) t) : ∃ x' y', t = x' ++ m ++ y' ∧ Unmarked x x' ∧ Unmarked y y' := by
  induction x generalizing t with
  | nil =>
    induction m generalizing t with
    | nil => exact ⟨[],t,rfl,.nil,h⟩
    | cons c m ih =>
      cases h with
      | keep _ h =>
        obtain ⟨x',y',rfl,hx,hy⟩ := ih (fun d hd => plain d (by simp [hd])) h
        cases hx
        exact ⟨[],y',rfl,.nil,hy⟩
      | drop hc _ =>
        rw [plain c (by simp)] at hc
        simp at hc
  | cons c x ih =>
    cases h with
    | keep _ h =>
      obtain ⟨x',y',rfl,hx,hy⟩ := ih h
      exact ⟨c :: x',y',rfl,.keep c hx,hy⟩
    | drop hc h =>
      obtain ⟨x',y',rfl,hx,hy⟩ := ih h
      exact ⟨x',y',rfl,.drop hc hx,hy⟩

end Unmarked

lemma VarBlock.Marked.unmarked (h : b.Marked) : Unmarked b.full.toList b.inner.toList := by
  rcases h with h | h
  · rw [h]
    exact .refl _
  · have hf : b.full.toList = '$' :: '\x7b' :: (b.inner.toList ++ ['\x7d']) := by simp [h]
    have hl : Unmarked ['\x7d'] [] := .drop (by decide) .nil
    have hi := (Unmarked.refl b.inner.toList).append hl
    rw [append_nil] at hi
    rw [hf]
    exact .drop (by decide) (.drop (by decide) hi)

lemma unmarked_unquote {x y : List Char} (m : List Char) (hx : x.getLast? = some '\'')
    (hy : y.head? = some '\'') : Unmarked (x ++ m ++ y) (x.dropLast ++ m ++ y.tail) := by
  obtain ⟨x,rfl⟩ := getLast?_eq_some_iff.1 hx
  obtain ⟨y,rfl⟩ := head?_eq_some_iff.1 hy
  have hq : Unmarked ['\''] [] := .drop (by decide) .nil
  have h := (((Unmarked.refl x).append hq).append (.refl m)).append (hq.append (.refl y))
  simpa using h

lemma unmarked_unquote_found {t full : String} (hi : find? t full = some i)
    (hb : t.toList[i - 1]? = some '\'') (hp : 0 < i) (ha : t.toList[i+full.length]? = some '\'') :
    Unmarked t.toList (t.toList.take (i - 1) ++ full.toList ++ t.toList.drop (i+full.length+1)) := by
  obtain ⟨x,y,ht,hx⟩ := findFrom_eq_some hi
  obtain rfl : i = x.length := by omega
  have hln : x.length+full.length = (x ++ full.toList).length := by
    rw [length_append,String.length_toList]
  rw [hln] at ha ⊢
  rw [ht] at hb ha ⊢
  have hl : x.getLast? = some '\'' := by
    rw [append_assoc,getElem?_append_left (by omega)] at hb
    rwa [getLast?_eq_getElem?]
  have hh : y.head? = some '\'' := by
    rw [getElem?_append_right (by omega),Nat.sub_self] at ha
    rwa [head?_eq_getElem?]
  have htk : (x ++ full.toList ++ y).take (x.length - 1) = x.dropLast := by
    rw [append_assoc,take_append_of_le_length (by omega),dropLast_eq_take]
  have hd : (x ++ full.toList ++ y).drop ((x ++ full.toList).length+1) = y.tail := by
    rw [drop_length_add_append,drop_one]
  rw [htk,hd]
  exact unmarked_unquote full.toList hl hh

lemma unmarked_removeInterpolation (s r : String) : Unmarked s.toList (removeInterpolation s (some r) false).toList := by
  unfold removeInterpolation
  refine foldlRecOn (motive := fun t : String => Unmarked s.toList t.toList) _ _ (.refl _) ?_
  intro t ht b hb
  have hm : Unmarked b.full.toList b.inner.toList :=
    (isPart_of_mem_varBlocks (mem_reverse.1 hb)).2.unmarked
  dsimp only
  split
  · rename_i hc
    have hf : b.full ≠ "" := by
      intro h
      simp [h,startsWith] at hc
    cases hi : find? t b.full with
    | none => exact ht.trans (hm.replace hf t)
    | some i =>
      simp only [Option.map_some,Option.getD_some,Int.ofNat_eq_natCast]
      split
      · rename_i hq
        simp only [Bool.and_eq_true,decide_eq_true_eq,beq_iff_eq] at hq
        obtain ⟨⟨⟨⟨hp,-⟩,hbf⟩,ha⟩,-⟩ := hq
        have hbf : t.toList[i - 1]? = some '\'' := by simpa using hbf
        have h := unmarked_unquote_found hi hbf (by omega) ha
        have hs : ((i : Int)+b.full.length+1).toNat = i+b.full.length+1 := by omega
        refine ht.trans (.trans ?_ (hm.replace hf _))
        simpa [hs] using h
      · exact ht.trans (hm.replace hf t)
  · exact ht

def isNameChar (c : Char) : Bool := isWord c || c == '-'

/-- A reference that starts with another one and goes on in the middle of a name, as
`var.name_suffix` does after `var.name`. -/
structure GoesOn (reference longer : String) : Prop where
  nonempty : reference ≠ ""
  rest : ∃ c t, longer.toList = reference.toList ++ c :: t ∧ isNameChar c
  plain : ∀ c ∈ longer.toList, isMark c = false

/-- The replacement of a reference leaves a longer reference alone in one case only: the new value
is written as the reference itself. -/
theorem replaceReference_keeps_longer_iff {reference longer : String} (h : GoesOn reference longer)
    (new : Value) (keepOrigin : Bool) {s : String} {x y : List Char} (hs : s.toList = x ++ longer.toList ++ y) :
    ∃ x' y' out, Unmarked x x' ∧ Unmarked y y' ∧
      (removeInterpolation s (some reference) false).toList = x' ++ longer.toList ++ y' ∧
      replaceReference reference new keepOrigin (.str s) = .ok (.str out) ∧
      (out.toList = Text.replaceChars reference.toList new.display.toList x' ++ longer.toList ++
          Text.replaceChars reference.toList new.display.toList y' ↔ new.display = reference) := by
  obtain ⟨c,t,hlonger,-⟩ := h.rest
  have hne : reference.toList ≠ [] := by simpa using h.nonempty
  have hremoved := unmarked_removeInterpolation s reference
  rw [hs] at hremoved
  obtain ⟨x',y',hsplit,hx,hy⟩ := Unmarked.exists_append h.plain hremoved
  have hcontains : Text.contains s reference = true := by
    rw [Text.contains_iff,hs,hlonger]
    exact ⟨x,c :: t ++ y,by simp⟩
  refine ⟨x',y',_,hx,hy,hsplit,by simp only [replaceReference,hcontains]; rfl,?_⟩
  have hreplace : ∀ new' z, Text.replaceChars reference.toList new' z = Text.replaceAux reference.toList new' 0 z := by
    intro new' z
    rw [Text.replaceChars,if_neg (by simpa using hne)]
  rw [Text.replace,String.toList_ofList,hsplit,hreplace,hreplace,hreplace,hlonger,
    Text.replaceAux_keeps_iff hne,String.toList_inj]

theorem replaceReference_loses_suffix : GoesOn "var.name" "var.name_suffix" ∧
      replaceReference "var.name" (.str "x") true (.str "$\x7bvar.name\x7d-$\x7bvar.name_suffix\x7d") =
        .ok (.str "x-$\x7bx_suffix\x7d") ∧
      ∃ x' y' out, Unmarked "$\x7bvar.name\x7d-$\x7b".toList x' ∧ Unmarked "\x7d".toList y' ∧
        replaceReference "var.name" (.str "x") true (.str "$\x7bvar.name\x7d-$\x7bvar.name_suffix\x7d") =
          .ok (.str out) ∧ out.toList ≠ Text.replaceChars "var.name".toList ['x'] x' ++ "var.name_suffix".toList ++
          Text.replaceChars "var.name".toList ['x'] y' := by
  have hplain : "var.name_suffix".toList.all (fun c => !isMark c) = true := by decide
  have h : GoesOn "var.name" "var.name_suffix" :=
    ⟨by decide,⟨'_',"suffix".toList,by decide,by decide⟩,by simpa using hplain⟩
  obtain ⟨x',y',out,hx,hy,-,hout,hiff⟩ :=
    replaceReference_keeps_longer_iff h (.str "x") true
      (s := "$\x7bvar.name\x7d-$\x7bvar.name_suffix\x7d") (x := "$\x7bvar.name\x7d-$\x7b".toList)
      (y := "\x7d".toList) (by decide)
  have hdisplay : (Value.str "x").display = "x" := by cbv
  have hremoved : removeInterpolation "$\x7bvar.name\x7d-$\x7bvar.name_suffix\x7d" (some "var.name") false =
      "var.name-$\x7bvar.name_suffix\x7d" := by decide +kernel
  have hvalue :
      replaceReference "var.name" (.str "x") true (.str "$\x7bvar.name\x7d-$\x7bvar.name_suffix\x7d") =
        .ok (.str "x-$\x7bx_suffix\x7d") := by
    rw [replaceReference,hremoved,hdisplay]
    rfl
  refine ⟨h,hvalue,x',y',out,hx,hy,hout,fun hkeep => ?_⟩
  rw [hdisplay] at hiff
  exact absurd (hiff.1 hkeep) (by decide)

section

variable (f : String → Value)

mutual

/-- Each text at any depth of the lists replaced on its own. -/
def eachText : Value → Value
  | .str s => f s
  | .list xs => .list (eachTextOf xs)
  | v => v

def eachTextOf : List Value → List Value
  | [] => []
  | x::xs => eachText x :: eachTextOf xs

end

/-- Only the text that the first items lead to replaced. -/
def leadingText : Value → Value
  | .str s => f s
  | .list (x::xs) => .list (leadingText x :: xs)
  | v => v

lemma eachTextOf_eq_self_iff (xs : List Value) : eachTextOf f xs = xs ↔ ∀ x ∈ xs, eachText f x = x := by
  induction xs with
  | nil => simp [eachTextOf]
  | cons x xs ih => rw [eachTextOf,cons.injEq,ih,forall_mem_cons]

end

/-- The items behind the first ones, in the list and in the first items themselves. -/
def behindFirst : Value → List Value
  | .list (x::xs) => xs ++ behindFirst x
  | _ => []

lemma leadingText_eq_eachText_iff (f : String → Value) (v : Value) :
    leadingText f v = eachText f v ↔ ∀ x ∈ behindFirst v, eachText f x = x := by
  fun_induction behindFirst v with
  | case1 x xs ih =>
    rw [leadingText,eachText,eachTextOf,forall_mem_append,← ih,← eachTextOf_eq_self_iff f xs,Value.list.injEq,cons.injEq,
      and_comm,eq_comm (a := xs)]
  | case2 v h =>
    have hl : leadingText f v = eachText f v := by
      cases v with
      | list xs =>
        cases xs with
        | nil => rfl
        | cons x xs => exact (h x xs rfl).elim
      | _ => rfl
    simp [hl]

/-- What a text becomes on its own. -/
def replacedAlone (reference new s : String) : Value :=
  (replaceReference reference (.str new) true (.str s)).toOption.getD .null

/-- Lists are replaced as a whole just if nothing behind the first items would change. -/
theorem replaceReference_each_iff (reference new : String) (v : Value) :
    replaceReference reference (.str new) true v = .ok (leadingText (replacedAlone reference new) v) ∧
      (leadingText (replacedAlone reference new) v = eachText (replacedAlone reference new) v ↔
        ∀ x ∈ behindFirst v, eachText (replacedAlone reference new) x = x) := by
  refine ⟨?_,leadingText_eq_eachText_iff _ v⟩
  fun_induction leadingText (replacedAlone reference new) v with
  | case1 s =>
    rw [replacedAlone,replaceReference]
    split <;> rfl
  | case2 x xs ih =>
    rw [replaceReference,ih]
    rfl
  | case3 v hs hl =>
    cases v with
    | str s => exact (hs s rfl).elim
    | list xs =>
      cases xs with
      | nil => rfl
      | cons x xs => exact (hl x xs rfl).elim
    | _ => rfl

end InfraAudit.Terraform
