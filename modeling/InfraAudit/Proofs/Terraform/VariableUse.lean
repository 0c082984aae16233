import InfraAudit.Proofs.Success
import InfraAudit.Proofs.Text.Occurrences
import InfraAudit.Terraform.VariableUse

/-!
The scanner for references, which finds all that it reads, and the arguments of a call, cut at the commas that stand in no
bracket and no text: cutting takes back joining, also where the last argument is not closed.
-/

namespace InfraAudit.Terraform

open List Text

/-- A found part is its inside, with or without interpolation marks around it. -/
def VarBlock.Marked (b : VarBlock) : Prop := b.full = b.inner ∨ b.full = "$\x7b" ++ b.inner ++ "\x7d"

variable {st : ScanState}

def VarBlock.IsPart (cs : Array Char) (b : VarBlock) : Prop := b.inner.toList <:+: cs.toList ∧ b.Marked

/-- Each position stack is as high as the modes that have a position, and the positions lie in the text. -/
structure Stacked (cs : Array Char) (modes : List Mode) (evals params : List Nat) (found : List VarBlock) : Prop where
  starts : evals.length = modes.count .eval
  openings : params.length = modes.count .params
  within : ∀ p ∈ params, p < cs.size
  parts : ∀ b ∈ found, b.IsPart cs

lemma isInfix_subText (a b : Nat) : (subText cs a b).toList <:+: cs.toList := by
  rw [subText,String.toList_ofList,Array.toList_extract,List.extract_eq_take_drop]
  have htake := take_prefix (b-a) (cs.toList.drop a)
  exact htake.isInfix.trans (drop_suffix _ _).isInfix

lemma isInfix_strip_subText (a b : Nat) : (strip (subText cs a b)).toList <:+: cs.toList := by
  obtain ⟨x,y,hs,-,-⟩ := strip_parts (subText cs a b)
  exact IsInfix.trans ⟨x,y,hs.symm⟩ (isInfix_subText a b)

lemma isPart_argumentBlock (start? : Option Nat) : ∀ b ∈ argumentBlock cs start? i, b.IsPart cs := by
  intro b h
  simp only [argumentBlock,mem_ite_nil_right,mem_singleton] at h
  obtain ⟨-,rfl⟩ := h
  exact ⟨isInfix_strip_subText _ i,.inl rfl⟩

lemma charAt_eq (h : i < cs.size) : charAt cs i = .ok cs[i] := by simp [charAt,h]

lemma nameStart_ok (h : n ≤ cs.size) : ∃ m ≤ n, nameStart cs n = .ok m := by
  induction n using nameStart.induct with
  | case1 => exact ⟨0,le_rfl,rfl⟩
  | case2 => exact ⟨1,le_rfl,rfl⟩
  | case3 n ih =>
    obtain ⟨m,hm,he⟩ := ih (by omega)
    rw [nameStart,charAt_eq (by omega),ok_bind]
    split
    · exact ⟨m,by omega,he⟩
    · exact ⟨n+2,le_rfl,rfl⟩

lemma callBlock_ok (h : opening < cs.size) : ∃ bs, callBlock cs opening i = .ok bs ∧ ∀ b ∈ bs, b.IsPart cs := by
  obtain ⟨m,hm,he⟩ := nameStart_ok h.le
  have hc : ∀ b ∈ (if m < opening then [(⟨subText cs m (i+1),subText cs m (i+1)⟩ : VarBlock)] else []), b.IsPart cs := by
    intro b hb
    simp only [mem_ite_nil_right,mem_singleton] at hb
    obtain ⟨-,rfl⟩ := hb
    exact ⟨isInfix_subText m _,.inl rfl⟩
  rw [callBlock,he]
  by_cases h2 : 2 ≤ m
  · simp only [ok_bind,h2,if_true,charAt_eq (show m - 2 < cs.size by omega),charAt_eq (show m - 1 < cs.size by omega)]
    split
    · split
      · exact ⟨[],rfl,by simp⟩
      · exact ⟨_,rfl,hc⟩
    · exact ⟨_,rfl,hc⟩
  · simp only [ok_bind,h2,if_false]
    exact ⟨_,rfl,hc⟩

/-- A step succeeds and leaves the stacks as they have to be. -/
def Safe (cs : Array Char) (r : Result ScanState) : Prop := ∃ st, r = .ok st ∧ Stacked cs st.modes st.evals st.params st.found

namespace Stacked

lemma add (h : Stacked cs modes evals params found) (hb : ∀ b ∈ bs, b.IsPart cs) :
    Stacked cs modes evals params (bs ++ found) :=
  {h with parts := forall_mem_append.2 ⟨hb,h.parts⟩}

lemma cons_iff (he : m ≠ .eval) (hp : m ≠ .params) :
    Stacked cs (m :: modes) evals params found ↔ Stacked cs modes evals params found := by
  constructor <;> exact fun h => ⟨by simpa [he] using h.starts,by simpa [hp] using h.openings,h.within,h.parts⟩

lemma exists_eval (h : Stacked cs (.eval :: modes) evals params found) :
    ∃ start rest, evals = start :: rest ∧ Stacked cs modes rest params found := by
  have hl := h.starts
  rw [count_cons_self] at hl
  obtain ⟨start,rest,rfl⟩ := exists_cons_of_length_eq_add_one hl
  exact ⟨start,rest,rfl,by simpa using hl,by simpa using h.openings,h.within,h.parts⟩

lemma exists_params (h : Stacked cs (.params :: modes) evals params found) :
    ∃ opening rest, params = opening :: rest ∧ opening < cs.size ∧ Stacked cs modes evals rest found := by
  have hl := h.openings
  rw [count_cons_self] at hl
  obtain ⟨opening,rest,rfl⟩ := exists_cons_of_length_eq_add_one hl
  obtain ⟨ho,hw⟩ := forall_mem_cons.1 h.within
  exact ⟨opening,rest,rfl,ho,by simpa using h.starts,by simpa using hl,hw,h.parts⟩

end Stacked

section

variable (h : Stacked cs st.modes st.evals st.params st.found)

include h

lemma safe_opened (he : m ≠ .eval) (hp : m ≠ .params) : Safe cs (scanChar.opened st m) := by
  refine ⟨_,rfl,?_⟩
  split
  · exact h
  · exact (Stacked.cons_iff he hp).2 h

lemma safe_closed (hm : st.modes.head? = some m) (he : m ≠ .eval) (hp : m ≠ .params) :
    Safe cs (scanChar.closed st) := by
  obtain ⟨modes,hs⟩ := head?_eq_some_iff.1 hm
  rw [hs] at h
  exact ⟨{st with modes},by rw [scanChar.closed,hs]; rfl,(Stacked.cons_iff he hp).1 h⟩

lemma safe_quoteChar (he : q ≠ .eval) (hp : q ≠ .params) :
    Safe cs (scanChar.quoteChar st {st with escaped := false} q) := by
  unfold scanChar.quoteChar
  split
  · exact ⟨_,rfl,h⟩
  split
  · next hm => exact safe_closed h (beq_iff_eq.1 hm) he hp
  · exact ⟨_,rfl,(Stacked.cons_iff he hp).2 h⟩

lemma safe_scanChar (hi : i < cs.size) (c : Char) : Safe cs (scanChar cs st i c) := by
  unfold scanChar
  dsimp only
  split
  · exact ⟨_,rfl,h⟩
  split
  · exact ⟨_,rfl,by simpa using h.starts,by simpa using h.openings,h.within,h.parts⟩
  split
  · exact ⟨_,rfl,h⟩
  split
  case h_1 hm _ _ _ =>
    obtain ⟨modes,hs⟩ := head?_eq_some_iff.1 hm
    rw [hs] at h
    obtain ⟨start,rest,he,hr⟩ := h.exists_eval
    rw [hs,he]
    exact ⟨_,rfl,@Stacked.add _ _ _ _ _ [_] hr (forall_mem_singleton.2 ⟨isInfix_subText start i,.inr rfl⟩)⟩
  case h_2 hm _ _ _ | h_3 hm _ _ _ => exact safe_closed h hm (by decide) (by decide)
  case h_4 hm _ _ _ =>
    obtain ⟨modes,hs⟩ := head?_eq_some_iff.1 hm
    rw [hs] at h
    obtain ⟨opening,rest,hp,ho,hr⟩ := h.exists_params
    obtain ⟨bs,hbs,hb⟩ := callBlock_ok (i := i) ho
    rw [hs,hp]
    simp only [pop,ok_bind,hbs]
    exact ⟨_,rfl,(hr.add (isPart_argumentBlock _)).add hb⟩
  case h_5 | h_6 => exact safe_quoteChar (by exact h) (by decide) (by decide)
  case h_7 | h_8 => exact safe_opened (by exact h) (by decide) (by decide)
  case h_9 =>
    split
    · exact ⟨_,rfl,h⟩
    · refine ⟨_,rfl,by simpa using h.starts,by simpa using h.openings,?_,h.parts⟩
      exact forall_mem_cons.2 ⟨hi,h.within⟩
  case h_10 => exact ⟨_,rfl,h.add (isPart_argumentBlock _)⟩
  case h_11 hm _ _ _ =>
    obtain ⟨modes,hs⟩ := head?_eq_some_iff.1 hm
    obtain ⟨start,rest,he,-⟩ := (hs ▸ h).exists_eval
    rw [he,pop,ok_bind]
    split
    · exact ⟨_,rfl,he ▸ h⟩
    · exact ⟨_,rfl,he ▸ @Stacked.add _ _ _ _ _ [_] h (forall_mem_singleton.2 ⟨isInfix_strip_subText start i,.inl rfl⟩)⟩
  case h_12 => exact ⟨_,rfl,h⟩

end

lemma safe_scanFrom (r : List Char) (h : Stacked cs st.modes st.evals st.params st.found) (hi : i+r.length ≤ cs.size) :
    Safe cs (scanFrom cs st i r) := by
  induction r generalizing st i with
  | nil => exact ⟨st,rfl,h⟩
  | cons c r ih =>
    rw [length_cons] at hi
    obtain ⟨st',hst,h'⟩ := safe_scanChar h (i := i) (by omega) c
    rw [scanFrom,hst]
    exact ih h' (by omega)

lemma scanBlocks_ok (s : String) : ∃ bs, scanBlocks s = .ok bs ∧ ∀ b ∈ bs, b.inner.toList <:+: s.toList ∧ b.Marked := by
  have hs : Stacked s.toList.toArray [] [] [] [] := ⟨rfl,rfl,by simp,by simp⟩
  obtain ⟨st,hst,h⟩ : Safe _ (scanFrom _ {} 0 _) := safe_scanFrom s.toList hs (by simp)
  rw [scanBlocks,hst]
  exact ⟨_,rfl,fun b hb => h.parts b (mem_reverse.1 hb)⟩

lemma isPart_of_mem_varBlocks (h : b ∈ varBlocks s) : b.inner.toList <:+: s.toList ∧ b.Marked := by
  obtain ⟨bs,hbs,hp⟩ := scanBlocks_ok s
  rw [varBlocks,hbs] at h
  exact hp b h

/-- Whatever the text, the scan reads and pops what is there, and each part that it finds is a piece of the text, written with or
without interpolation marks. -/
theorem varBlocks_safe (s : String) : scanBlocks s = .ok (varBlocks s) ∧ ∀ b ∈ varBlocks s,
    b.inner.toList <:+: s.toList ∧ (b.full = b.inner ∨ b.full = "$\x7b" ++ b.inner ++ "\x7d") := by
  refine ⟨?_,fun b => isPart_of_mem_varBlocks⟩
  obtain ⟨bs,hbs,-⟩ := scanBlocks_ok s
  rw [varBlocks,hbs]

namespace ArgState

variable {st : ArgState} {c : Char}

def after (st : ArgState) (cs : List Char) : ArgState := cs.foldl step st

/-- No comma of the text stands outside its brackets and quoted texts. -/
def uncut : ArgState → List Char → Bool
  | _,[] => true
  | st,c::r => if c == ',' && st.nesting.isEmpty then false else uncut (st.step c) r

lemma after_append (st : ArgState) (u v : List Char) : st.after (u ++ v) = (st.after u).after v := foldl_append

lemma uncut_append (st : ArgState) (u v : List Char) : uncut st (u ++ v) = (uncut st u && uncut (st.after u) v) := by
  induction u generalizing st with
  | nil => rfl
  | cons c u ih =>
    rw [cons_append,uncut,uncut,ih]
    split <;> rfl

/-- Only marks wait to close, and a character is escaped in a quoted text only. -/
structure Sound (st : ArgState) : Prop where
  unblank : ∀ t ∈ st.nesting, isBlank t = false
  quoting : st.escaped → ∃ t ∈ st.nesting.head?, t = '"' ∨ t = '\''

lemma isBlank_closingMark (h : closingMark? c = some d) : isBlank c = false ∧ isBlank d = false := by
  unfold closingMark? at h
  split at h <;> cases h <;> decide

lemma Sound.step (h : st.Sound) (c : Char) : (st.step c).Sound := by
  obtain ⟨nesting,escaped⟩ := st
  obtain ⟨hb,hq⟩ := h
  unfold ArgState.step
  cases hm : closingMark? c <;> cases nesting <;> constructor <;> grind [→ isBlank_closingMark]

lemma nesting_blank (h : st.Sound) (hc : isBlank c) : (st.step c).nesting = st.nesting := by
  obtain ⟨nesting,escaped⟩ := st
  have hb := h.unblank
  unfold ArgState.step
  cases hm : closingMark? c <;> cases nesting <;> grind [→ isBlank_closingMark]

lemma sound_after (h : st.Sound) (cs : List Char) : (st.after cs).Sound := by
  induction cs generalizing st with
  | nil => exact h
  | cons c cs ih => exact ih (h.step c)

lemma sound_start : Sound {} := ⟨by simp,by simp⟩

lemma after_eq_start {cs : List Char} (h : (after {} cs).nesting = []) : after {} cs = {} := by
  have hq := (sound_after sound_start cs).quoting
  generalize after {} cs = st at h hq
  obtain ⟨nesting,escaped⟩ := st
  cases escaped <;> simp_all

lemma nesting_blanks (h : st.Sound) {b : List Char} (hb : ∀ c ∈ b, isBlank c) :
    (st.after b).nesting = st.nesting := by
  induction b generalizing st with
  | nil => rfl
  | cons c b ih =>
    obtain ⟨hc,hb⟩ := forall_mem_cons.1 hb
    exact (ih (h.step c) hb).trans (nesting_blank h hc)

/-- Without its outer blanks a piece has no comma outside either, and is as open as it was. -/
lemma strip_uncut {s : String} (h : uncut {} s.toList = true) :
    uncut {} (strip s).toList = true ∧ (after {} (strip s).toList).nesting = (after {} s.toList).nesting := by
  obtain ⟨a,b,hs,ha,hb⟩ := strip_parts s
  have hst : after {} a = {} := after_eq_start (nesting_blanks sound_start ha)
  rw [hs,append_assoc,uncut_append,hst,uncut_append] at h
  refine ⟨by simp_all,?_⟩
  rw [hs,after_append,after_append,hst,nesting_blanks (sound_after sound_start _) hb]

end ArgState

open ArgState

lemma argumentPieces_append {st : ArgState} (h : uncut st v) (acc r : List Char) :
    argumentPieces st acc (v ++ r) = argumentPieces (st.after v) (v.reverse ++ acc) r := by
  induction v generalizing st acc with
  | nil => rfl
  | cons c v ih =>
    rw [uncut] at h
    split at h
    · cases h
    · next hc =>
      rw [cons_append,argumentPieces,if_neg hc,ih h,reverse_cons,append_assoc]
      rfl

def IsArgument (a : String) : Prop := a ≠ "" ∧ strip a = a ∧ uncut {} a.toList

/-- Arguments of which only the last may be open. -/
inductive Listed : List String → Prop
  | last {a : String} : IsArgument a → Listed [a]
  | cons {a : String} {args : List String} : IsArgument a → (after {} a.toList).nesting = [] → Listed args → Listed (a::args)

lemma pieces_argument (h : IsArgument a) (r : List Char) :
    argumentPieces {} [] (a.toList ++ r) = argumentPieces (after {} a.toList) a.toList.reverse r := by
  rw [argumentPieces_append h.2.2,append_nil]

lemma keep_argument (h : IsArgument a) (rest : List String) :
    argumentPieces.keep a.toList.reverse rest = a :: rest := by
  simp [argumentPieces.keep,h.2.1,h.1]

lemma pieces_join (h : Listed args) : argumentPieces {} [] (join "," args).toList = args := by
  induction h with
  | @last a ha => exact (append_nil a.toList ▸ pieces_argument ha []).trans (keep_argument ha [])
  | @cons a args ha hc hargs ih =>
    obtain ⟨b,bs,rfl⟩ : ∃ b bs, args = b :: bs := by cases hargs <;> exact ⟨_,_,rfl⟩
    have hj : (join "," (a :: b :: bs)).toList = a.toList ++ ',' :: (join "," (b::bs)).toList := by
      simp [join,String.intercalate_cons_cons]
    rw [hj,pieces_argument ha,after_eq_start hc,argumentPieces,if_pos (by rfl)]
    exact (keep_argument ha _).trans (congrArg (a :: ·) ih)

lemma keep_listed (h : uncut {} u) (hr : rest = [] ∨ (after {} u).nesting = [] ∧ Listed rest) :
    argumentPieces.keep u.reverse rest = [] ∨ Listed (argumentPieces.keep u.reverse rest) := by
  obtain ⟨hs,hn⟩ := strip_uncut (s := String.ofList u) (by rwa [String.toList_ofList])
  rw [String.toList_ofList] at hn
  rw [argumentPieces.keep,reverse_reverse]
  split
  · exact hr.imp_right And.right
  · next he =>
    have ha : IsArgument (strip (String.ofList u)) := ⟨by simpa using he,strip_strip _,hs⟩
    exact .inr (hr.elim (fun hr => hr ▸ .last ha) fun ⟨hu,hl⟩ => .cons ha (hn.trans hu) hl)

lemma listed_pieces (r : List Char) (h : uncut {} u) :
    argumentPieces (after {} u) u.reverse r = [] ∨ Listed (argumentPieces (after {} u) u.reverse r) := by
  induction r generalizing u with
  | nil => exact keep_listed h (.inl rfl)
  | cons c r ih =>
    rw [argumentPieces]
    split
    · next hc =>
      obtain ⟨rfl,hu⟩ : c = ',' ∧ (after {} u).nesting = [] := by simpa using hc
      rw [after_eq_start hu]
      exact keep_listed h ((ih (u := []) rfl).imp_right fun hl => ⟨hu,hl⟩)
    · next hc =>
      have hw := ih (u := u ++ [c]) (by rw [uncut_append,h,uncut,if_neg hc]; rfl)
      rwa [after_append,reverse_append] at hw

/-- Cutting takes back joining, for arguments that are closed and for all that cutting gives. -/
theorem splitArguments_join : (∀ args : List String, args ≠ [] → (∀ a ∈ args, a ≠ "" ∧ strip a = a ∧
      uncut {} a.toList = true ∧ (after {} a.toList).nesting = []) → splitArguments (join "," args) = some args) ∧
    ∀ (s : String) (args : List String), splitArguments s = some args → splitArguments (join "," args) = some args := by
  have hj : ∀ args, Listed args → splitArguments (join "," args) = some args := by
    intro args h
    rw [splitArguments,pieces_join h]
    cases h <;> rfl
  refine ⟨fun args hne hargs => hj args ?_,fun s args hs => hj args ?_⟩
  · induction args with
    | nil => exact absurd rfl hne
    | cons a args ih =>
      obtain ⟨⟨hn,hst,hu,hc⟩,hr⟩ := forall_mem_cons.1 hargs
      by_cases he : args = []
      · exact he ▸ .last ⟨hn,hst,hu⟩
      · exact .cons ⟨hn,hst,hu⟩ hc (ih he hr)
  · have hl := listed_pieces s.toList (u := []) rfl
    rw [splitArguments] at hs
    split at hs
    · cases hs
    · next he =>
      cases hs
      exact hl.resolve_left he

def nestedArguments : List String := ["merge(local.a, \"x\\\", y\")","[1, (2)]","local.b"]

theorem splitArguments_join_nested : (∀ a ∈ nestedArguments, a ≠ "" ∧ strip a = a ∧ uncut {} a.toList = true ∧
      (after {} a.toList).nesting = []) ∧ splitArguments (join "," nestedArguments) = some nestedArguments ∧
    splitArguments " a(1, 2) ,, \"b, c" = some ["a(1, 2)","\"b, c"] ∧
    splitArguments (join "," ["a(1, 2)","\"b, c"]) = some ["a(1, 2)","\"b, c"] := by
  have hargs : ∀ a ∈ nestedArguments, a ≠ "" ∧ strip a = a ∧ uncut {} a.toList = true ∧
      (after {} a.toList).nesting = [] := by decide +kernel
  have hs : splitArguments " a(1, 2) ,, \"b, c" = some ["a(1, 2)","\"b, c"] := by decide +kernel
  exact ⟨hargs,splitArguments_join.1 _ (by simp [nestedArguments]) hargs,hs,splitArguments_join.2 _ _ hs⟩

end InfraAudit.Terraform
