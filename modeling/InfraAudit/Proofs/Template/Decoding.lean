import InfraAudit.Proofs.Decimal.Numeral
import Mathlib

/-!
What JSON texts denote, and that reading them gives it. A text is written as a tree with its spaces and escapes; reading goes
through the tree once, and refuses the text just if an object of it repeats a key.
-/

namespace InfraAudit.Template

open List Json Decimal

/-- A part of a string: a character as it is, an escaped one, or a code unit by its digits. -/
inductive Piece where
  | plain (c : Char) (h : 32 ≤ c.toNat ∧ c ≠ '"' ∧ c ≠ '\\')
  | escape (c d : Char) (h : simpleEscape? c = some d)
  | unit (ds : List Char) (n : Nat) (h : codeUnit? ds = some n)

def Piece.chars : Piece → List Char
  | .plain c _ => [c]
  | .escape c _ _ => ['\\',c]
  | .unit ds _ _ => '\\' :: 'u' :: ds

/-- The code points that a string denotes. A high and a low surrogate together give one. -/
def denoted : List Piece → List Nat
  | [] => []
  | .plain c _ :: ps => c.toNat :: denoted ps
  | .escape _ d _ :: ps => d.toNat :: denoted ps
  | .unit _ n _ :: .unit ds m h :: ps =>
    if isHighSurrogate n && isLowSurrogate m then joinSurrogates n m :: denoted ps
    else n :: denoted (.unit ds m h :: ps)
  | .unit _ n _ :: ps => n :: denoted ps

inductive Scalar where
  | null
  | bool (b : Bool)
  | int (negative : Bool) (n : Nat)

def Scalar.chars : Scalar → List Char
  | .null => "null".toList
  | .bool b => (if b then "true" else "false").toList
  | .int negative n => (if negative then ['-'] else []) ++ numeral n

def Scalar.value : Scalar → Value
  | .null => .null
  | .bool b => .bool b
  | .int negative n => .int (if negative then -n else n)

abbrev Space := {w : List Char // ∀ c ∈ w, isSpace c = true}

structure Label where
  before : Space
  key : List Piece
  after : Space
  gap : Space

mutual

/-- A JSON text without the spaces around it. -/
inductive Doc where
  | scalar (s : Scalar)
  | text (ps : List Piece)
  | emptyList (w : Space)
  | list (xs : Items)
  | emptyDict (w : Space)
  | dict (fs : Members)

inductive Items where
  | last (before : Space) (d : Doc) (after : Space)
  | more (before : Space) (d : Doc) (after : Space) (xs : Items)

inductive Members where
  | last (l : Label) (d : Doc) (after : Space)
  | more (l : Label) (d : Doc) (after : Space) (fs : Members)

end

def quoted (ps : List Piece) : List Char := '"' :: (ps.flatMap Piece.chars ++ ['"'])

def Label.chars (l : Label) : List Char := l.before.1 ++ (quoted l.key ++ (l.after.1 ++ ':' :: l.gap.1))

def Label.name (l : Label) : Key := ⟨denoted l.key,default⟩

mutual

def Doc.chars : Doc → List Char
  | .scalar s => s.chars
  | .text ps => quoted ps
  | .emptyList w => '[' :: (w.1 ++ [']'])
  | .list xs => '[' :: xs.chars
  | .emptyDict w => '\x7b' :: (w.1 ++ ['\x7d'])
  | .dict fs => '\x7b' :: fs.chars

def Items.chars : Items → List Char
  | .last b d a => b.1 ++ (d.chars ++ (a.1 ++ [']']))
  | .more b d a xs => b.1 ++ (d.chars ++ (a.1 ++ ',' :: xs.chars))

def Members.chars : Members → List Char
  | .last l d a => l.chars ++ (d.chars ++ (a.1 ++ ['\x7d']))
  | .more l d a fs => l.chars ++ (d.chars ++ (a.1 ++ ',' :: fs.chars))

end

mutual

/-- What a text denotes, with no marks. -/
def Doc.content : Doc → Node
  | .scalar s => .plain s.value
  | .text ps => .string (denoted ps)
  | .emptyList _ => .list [] default
  | .list xs => .list xs.contents default
  | .emptyDict _ => .dict [] default
  | .dict fs => .dict fs.contents default

def Items.contents : Items → List Node
  | .last _ d _ => [d.content]
  | .more _ d _ xs => d.content :: xs.contents

def Members.contents : Members → List (Key × Node)
  | .last l d _ => [(l.name,d.content)]
  | .more l d _ fs => (l.name,d.content) :: fs.contents

end

mutual

def Node.unmarked : Node → Node
  | .list xs _ => .list (unmarkedItems xs) default
  | .dict fs _ => .dict (unmarkedFields fs) default
  | .text s _ => .text s default
  | n => n

def Node.unmarkedItems : List Node → List Node
  | [] => []
  | n::ns => n.unmarked :: unmarkedItems ns

def Node.unmarkedFields : List (Key × Node) → List (Key × Node)
  | [] => []
  | (k,n)::r => (⟨k.points,default⟩,n.unmarked) :: unmarkedFields r

end

mutual

/-- No object at any depth repeats a key. -/
def Doc.Distinct : Doc → Prop
  | .list xs => xs.Distinct
  | .dict fs => fs.Distinct ∧ (fs.contents.map (·.1.points)).Nodup
  | _ => True

def Items.Distinct : Items → Prop
  | .last _ d _ => d.Distinct
  | .more _ d _ xs => d.Distinct ∧ xs.Distinct

def Members.Distinct : Members → Prop
  | .last _ d _ => d.Distinct
  | .more _ d _ fs => d.Distinct ∧ fs.Distinct

end

/-- A result if `p`, and else the refusal of the text. -/
def Decodes {α : Type} (p : Prop) (res : Result α) (good : α → Prop) : Prop :=
  (p → ∃ x, res = .ok x ∧ good x) ∧ (¬p → ∃ what, res = .error (.unreadableTemplate what))

lemma Decodes.ok {α : Type} {p : Prop} {x : α} {good : α → Prop} (hp : p) (h : good x) : Decodes p (.ok x) good :=
  ⟨fun _ => ⟨x,rfl,h⟩,fun hn => (hn hp).elim⟩

lemma Decodes.bind {α β : Type} {p q P : Prop} {res : Result α} {f : α → Result β} {good : α → Prop} {good' : β → Prop}
    (h : Decodes p res good) (hP : P ↔ p ∧ q) (hf : ∀ x, good x → Decodes q (f x) good') : Decodes P (res >>= f) good' := by
  rw [hP]
  by_cases hp : p
  · obtain ⟨x,rfl,hx⟩ := h.1 hp
    simp only [hp,true_and]
    exact hf x hx
  · obtain ⟨what,rfl⟩ := h.2 hp
    exact ⟨fun h => (hp h.1).elim,fun _ => ⟨what,rfl⟩⟩

lemma Decodes.imp {α : Type} {p : Prop} {res : Result α} {good good' : α → Prop} (h : Decodes p res good)
    (hg : ∀ x, good x → good' x) : Decodes p res good' := ⟨fun hp => (h.1 hp).imp fun _ => And.imp_right (hg _),h.2⟩

/-- Nothing at the front that goes on with a number. -/
def Ended (r : List Char) : Prop := ∀ c ∈ r.head?, c.isDigit = false ∧ c ≠ '.' ∧ c ≠ 'e' ∧ c ≠ 'E'

lemma ended_append (w : Space) (h : Ended r) : Ended (w.1 ++ r) := by
  obtain ⟨w,hw⟩ := w
  cases w with
  | nil => exact h
  | cons c w =>
    intro b hb
    cases hb
    have hc := hw c mem_cons_self
    simp only [isSpace,Bool.or_eq_true,beq_iff_eq] at hc
    rcases hc with ((rfl | rfl) | rfl) | rfl <;> decide

lemma skipSpace_eq (pos : Nat) (w : Space) (h : ∀ c ∈ r.head?, isSpace c = false) :
    ∃ p, Cursor.skipSpace ⟨pos,w.1 ++ r⟩ = ⟨p,r⟩ := by
  obtain ⟨w,hw⟩ := w
  have hs : ∀ n, (Json.skipSpace n (w ++ r)).2 = r := by
    induction w with
    | nil =>
      intro n
      cases r with
      | nil => rfl
      | cons c r => simp [Json.skipSpace,h c rfl]
    | cons c w ih =>
      intro n
      rw [cons_append,Json.skipSpace,if_pos (hw c mem_cons_self)]
      exact ih (fun c hc => hw c (mem_cons_of_mem _ hc)) _
  exact ⟨_,congrArg (Cursor.mk _) (hs 0)⟩

lemma length_of_codeUnit? (h : codeUnit? ds = some n) : ds.length = 4 := by
  by_contra hd
  simp [codeUnit?,hd] at h

lemma readText_pieces (src : Source) (b : Nat) (ps : List Piece) (r : List Char) (acc : List Nat) (k pos : Nat) :
    ∃ p, readText src b (k+ps.length+1) acc ⟨pos,ps.flatMap Piece.chars ++ '"' :: r⟩ =
      .ok (acc.reverseAux (denoted ps),⟨p,r⟩) := by
  fun_induction denoted ps generalizing acc k pos with
  | case1 => exact ⟨_,by simp [readText,reverseAux_eq]; rfl⟩
  | case2 c h ps ih =>
    simp only [flatMap_cons,Piece.chars,cons_append,nil_append]
    rw [readText,if_neg (by omega)]
    · exact ih (c.toNat :: acc) k (pos+1)
    all_goals simp [h.2]
  | case3 c d h ps ih =>
    have hu : c ≠ 'u' := by rintro rfl; cases h
    simp only [flatMap_cons,Piece.chars,cons_append,nil_append]
    rw [readText,h]
    · exact ih (d.toNat :: acc) k (pos+2)
    · exact hu
  | case4 ds n hn ds' m hm ps hs ih =>
    have hd := length_of_codeUnit? hn
    have hd' := length_of_codeUnit? hm
    rw [Bool.and_eq_true] at hs
    simp only [flatMap_cons,Piece.chars,cons_append,append_assoc,readText,take_left' hd,hn,drop_left' hd,hs.1,hs.2,
      take_left' hd',hm,drop_left' hd',if_true]
    have h := ih (joinSurrogates n m :: acc) (k+1) (pos+12)
    rwa [Nat.add_right_comm k] at h
  | case5 ds n hn ds' m hm ps hs ih =>
    have hd := length_of_codeUnit? hn
    have hd' := length_of_codeUnit? hm
    have h := ih (n::acc) k (pos+6)
    simp only [flatMap_cons,Piece.chars,cons_append,append_assoc] at h
    simp only [flatMap_cons,Piece.chars,cons_append,append_assoc,readText,take_left' hd,hn,drop_left' hd,if_neg hs]
    split
    · next r' hh he =>
      cases he
      rw [hh,Bool.true_and] at hs
      simp only [take_left' hd',hm,if_neg hs]
      exact h
    · exact h
  | case6 ds n hn ps hps ih =>
    have hd := length_of_codeUnit? hn
    simp only [flatMap_cons,Piece.chars,cons_append,append_assoc,readText,take_left' hd,hn,drop_left' hd]
    split
    · next r' hh he =>
      rcases ps with _ | ⟨⟨c,h⟩ | ⟨c,d,h⟩ | ⟨ds',m,h⟩,ps⟩
      · cases he
      · exact (h.2.2 (cons.inj he).1).elim
      · cases he
        cases h
      · exact (hps _ _ _ _ rfl).elim
    · exact ih (n::acc) k (pos+6)

lemma readText_quoted (src : Source) (b : Nat) (ps : List Piece) (r : List Char) (pos : Nat) {fuel : Nat}
    (hf : (ps.flatMap Piece.chars).length < fuel) :
    Decodes True (readText src b fuel [] ⟨pos,ps.flatMap Piece.chars ++ '"' :: r⟩)
      fun x => ∃ p, x = (denoted ps,⟨p,r⟩) := by
  have hl : ps.length ≤ (ps.flatMap Piece.chars).length := by
    induction ps with
    | nil => exact Nat.zero_le _
    | cons q ps ih => cases q <;> simp [Piece.chars] at ih hf ⊢ <;> omega
  obtain ⟨k,rfl⟩ : ∃ k, fuel = k+ps.length+1 := ⟨fuel-ps.length-1,by omega⟩
  obtain ⟨p,hp⟩ := readText_pieces src b ps r [] k pos
  exact hp ▸ .ok trivial ⟨p,rfl⟩

lemma takeWhile_digits (hd : ∀ c ∈ ds, c.isDigit) (hr : Ended r) :
    (ds ++ r).takeWhile Char.isDigit = ds ∧ (ds ++ r).dropWhile Char.isDigit = r := by
  rw [takeWhile_append_of_pos hd,dropWhile_append_of_pos hd]
  cases r with
  | nil => simp
  | cons c r => simp [(hr c rfl).1]

lemma intPart?_numeral (negative : Bool) (n : Nat) (hr : Ended r) :
    intPart? ((Scalar.int negative n).chars ++ r) = some ((Scalar.int negative n).chars,r) := by
  obtain ⟨c,t,ht,hc⟩ := exists_numeral_eq_cons n
  have hdash : c ≠ '-' := by rintro rfl; cases hc
  by_cases h0 : c = '0'
  · have hn : n = 0 := by
      by_contra hn
      exact head?_numeral_ne_zero (Nat.pos_of_ne_zero hn) (by rw [ht,h0]; rfl)
    rw [hn]
    cases negative <;> rfl
  · obtain ⟨ht1,ht2⟩ := takeWhile_digits (fun d hd => isDigit_of_mem_numeral (n := n) (by rw [ht]; exact mem_cons_of_mem c hd)) hr
    cases negative <;> simp [Scalar.chars,intPart?,ht,hc,ht1,ht2,hdash]

lemma scalar?_append (s : Scalar) (hr : Ended r) : scalar? (s.chars ++ r) = some (s.value,s.chars.length,r) := by
  cases s with
  | null => rfl
  | bool b => cases b <;> rfl
  | int negative n =>
    have hf : fractionPart r = ([],r) := by
      unfold fractionPart
      split
      · exact ((hr _ rfl).2.1 rfl).elim
      · rfl
    have he : exponentPart r = ([],r) := by
      cases r with
      | nil => rfl
      | cons c r => simp [exponentPart,(hr c rfl).2.2]
    obtain ⟨c,t,ht,hc⟩ := exists_numeral_eq_cons n
    have hword : 'n' ≠ c ∧ 't' ≠ c ∧ 'f' ≠ c ∧ c ≠ '-' := by refine ⟨?_,?_,?_,?_⟩ <;> rintro rfl <;> cases hc
    have hw : word? ((Scalar.int negative n).chars ++ r) = none := by
      cases negative <;> simp [word?,Scalar.chars,ht,isPrefixOf,hword]
    have hv : numberOf (Scalar.int negative n).chars [] [] = (Scalar.int negative n).value := by
      have hn := natOf_numeral n
      cases negative <;> simp_all [numberOf,Scalar.chars,Scalar.value]
    simp [scalar?,hw,number?,intPart?_numeral negative n hr,hf,he,hv]

lemma head_scalar (s : Scalar) : ∃ c t, s.chars = c :: t ∧ isSpace c = false ∧ c ∉ ['"','\x7b','[',']','\ufeff'] := by
  cases s with
  | null => exact ⟨_,_,rfl,by decide⟩
  | bool b => cases b <;> exact ⟨_,_,rfl,by decide⟩
  | int negative n =>
    obtain ⟨c,t,ht,hc⟩ := exists_numeral_eq_cons n
    have h := of_isDigit (fun c => isSpace c = false ∧ c ∉ ['"','\x7b','[',']','\ufeff']) (by decide) hc
    cases negative with
    | true => exact ⟨_,_,rfl,by decide⟩
    | false => exact ⟨c,t,ht,of_decide_eq_true h⟩

lemma head_chars (d : Doc) : ∃ c t, d.chars = c :: t ∧ isSpace c = false ∧ c ∉ [']','\ufeff'] := by
  cases d with
  | scalar s =>
    obtain ⟨c,t,h,hs,hc⟩ := head_scalar s
    exact ⟨c,t,h,hs,fun he => hc (by simp_all)⟩
  | _ => exact ⟨_,_,rfl,by decide⟩

lemma solid_chars (d : Doc) (r : List Char) : ∀ c ∈ (d.chars ++ r).head?, isSpace c = false := by
  obtain ⟨c,t,h,hc,-⟩ := head_chars d
  simp [h,hc]

lemma quote_of_members (fs : Members) (r : List Char) (pos : Nat) :
    ∃ p t, Cursor.skipSpace ⟨pos,fs.chars ++ r⟩ = ⟨p,'"' :: t⟩ := by
  rcases fs with ⟨l,d,a⟩ | ⟨l,d,a,fs⟩ <;> simp only [Members.chars,Label.chars,quoted,append_assoc,cons_append] <;>
    exact ⟨_,_,(skipSpace_eq pos l.before (by simp [isSpace])).choose_spec⟩

lemma unclosed_of_items (xs : Items) (r : List Char) (pos : Nat) :
    ∃ p c t, Cursor.skipSpace ⟨pos,xs.chars ++ r⟩ = ⟨p,c::t⟩ ∧ c ≠ ']' := by
  rcases xs with ⟨b,d,a⟩ | ⟨b,d,a,xs⟩ <;> obtain ⟨c,t,h,hs,hc⟩ := head_chars d <;>
    simp only [Items.chars,append_assoc,cons_append,h] <;>
    exact ⟨_,c,_,(skipSpace_eq pos b (by simp [hs])).choose_spec,by simp_all⟩

def Source.Strict (src : Source) : Prop := src.allowNulls = true ∧ src.allowRepeats = false

lemma makeObject_decodes (hn : src.Strict) (pairs : List (Key × Node)) (span : Span) (lastKey : Nat) :
    Decodes (pairs.map (·.1.points)).Nodup (makeObject src pairs span lastKey) (· = .dict pairs span) := by
  have hgo : ∀ seen, Decodes ((∀ k ∈ pairs.map (·.1.points), k ∉ seen) ∧ (pairs.map (·.1.points)).Nodup)
      (makeObject.go src lastKey seen pairs) fun _ => True := by
    generalize pairs = pairs
    induction pairs with
    | nil => exact fun seen => .ok (by simp) trivial
    | cons f r ih =>
      intro seen
      rw [makeObject.go.eq_def]
      simp only [hn.1,hn.2,Bool.not_true,Bool.not_false,Bool.true_and,Bool.false_and,Bool.false_eq_true,if_false,contains_iff_mem]
      by_cases hs : f.1.points ∈ seen
      · rw [if_pos hs]
        exact ⟨fun hd => (hd.1 _ (by simp) hs).elim,fun _ => ⟨_,rfl⟩⟩
      · rw [if_neg hs]
        convert ih (f.1.points :: seen) using 1
        simp only [map_cons,nodup_cons,mem_cons,forall_eq_or_imp,not_or]
        grind
  exact (hgo []).bind (by simp) (fun _ _ => .ok (p := True) trivial (by simp [hn.2]))

mutual

lemma Doc.decodes (hn : src.Strict) (d : Doc) {r : List Char} (hr : Ended r) (pos fuel : Nat)
    (hf : 3*d.chars.length ≤ fuel) : Decodes d.Distinct (readNode src fuel ⟨pos,d.chars ++ r⟩)
      fun x => ∃ node p, x = some (node,⟨p,r⟩) ∧ node.unmarked = d.content := by
  have hpos : ∃ n, fuel = n+3 := ⟨fuel-3,by obtain ⟨c,t,h,-⟩ := head_chars d; rw [h,length_cons] at hf; omega⟩
  obtain ⟨fuel,rfl⟩ := hpos
  cases d with
  | scalar s =>
    obtain ⟨c,t,h,-,hc⟩ := head_scalar s
    have hs := scalar?_append s hr
    simp only [mem_cons,not_mem_nil,or_false,not_or] at hc
    simp only [h,cons_append] at hs
    simp only [Doc.chars,h,cons_append]
    rw [readNode]
    split <;> simp_all
    exact .ok trivial ⟨_,⟨_,rfl⟩,rfl⟩
  | text ps =>
    simp only [Doc.chars,quoted,length_cons,length_append,cons_append,append_assoc,readNode] at hf ⊢
    refine (readText_quoted src pos ps _ (pos+1) (by simp)).bind (true_and _).to_iff.symm ?_
    rintro _ ⟨p,rfl⟩
    exact .ok trivial ⟨_,p,rfl,rfl⟩
  | emptyList w =>
    simp only [Doc.chars,cons_append,append_assoc,readNode,readArray]
    obtain ⟨p,hp⟩ := skipSpace_eq (pos+1) w (r := ']' :: r) (by simp [isSpace])
    simp only [nil_append]
    rw [hp]
    exact .ok trivial ⟨_,_,rfl,rfl⟩
  | emptyDict w =>
    simp only [Doc.chars,cons_append,append_assoc,readNode,readObject]
    obtain ⟨p,hp⟩ := skipSpace_eq (pos+1) w (r := '\x7d' :: r) (by simp [isSpace])
    simp only [nil_append]
    rw [hp]
    exact .ok trivial ⟨_,_,rfl,by rw [hn.2]; rfl⟩
  | list xs =>
    simp only [Doc.chars,length_cons] at hf
    obtain ⟨q,c,t,hq,hc⟩ := unclosed_of_items xs r (pos+1)
    have h := xs.decodes hn r [] (pos+1) (pos+1) (fuel+1) (by omega)
    rw [hq] at h
    simp only [Doc.chars,cons_append,readNode,readArray]
    rw [hq]
    dsimp only
    split
    · next he => exact (hc (cons.inj he).1).elim
    refine h.bind (and_true _).to_iff.symm ?_
    rintro _ ⟨nodes,span,p,rfl,hv⟩
    exact .ok trivial ⟨_,p,rfl,congrArg (Node.list · default) hv⟩
  | dict fs =>
    simp only [Doc.chars,length_cons] at hf
    obtain ⟨q,t,hq⟩ := quote_of_members fs r (pos+1)
    have h := fs.decodes hn r [] (pos+1) (pos+1) (fuel+1) (by omega)
    rw [hq] at h
    simp only [Doc.chars,cons_append,readNode,readObject]
    rw [hq]
    refine h.bind (and_true _).to_iff.symm ?_
    rintro _ ⟨pairs,span,p,rfl,hv⟩
    exact .ok trivial ⟨_,p,rfl,congrArg (Node.dict · default) hv⟩

lemma Items.decodes (hn : src.Strict) (xs : Items) (r : List Char) (acc : List Node) (start pos fuel : Nat)
    (hf : 3*xs.chars.length ≤ fuel) :
    Decodes xs.Distinct (readElements src start fuel acc (Cursor.skipSpace ⟨pos,xs.chars ++ r⟩))
      fun x => ∃ nodes span p, x = (.list (acc.reverseAux nodes) span,⟨p,r⟩) ∧ Node.unmarkedItems nodes = xs.contents := by
  rcases xs with ⟨b,d,a⟩ | ⟨b,d,a,xs⟩
  all_goals
    simp only [Items.chars,length_append,length_cons,append_assoc,cons_append,nil_append] at hf ⊢
    obtain ⟨fuel,rfl⟩ : ∃ n, fuel = n+1 := ⟨fuel-1,by omega⟩
    obtain ⟨p,hp⟩ := skipSpace_eq pos b (solid_chars d _)
    rw [hp,readElements]
  · refine (d.decodes hn (ended_append a (by simp [Ended])) p fuel (by omega)).bind (and_true _).to_iff.symm ?_
    rintro _ ⟨node,p,rfl,hv⟩
    obtain ⟨p,hp⟩ := skipSpace_eq p a (r := ']' :: r) (by simp [isSpace])
    dsimp only
    rw [hp]
    exact .ok trivial ⟨[node],_,_,rfl,by simp [Node.unmarkedItems,Items.contents,hv]⟩
  · refine (d.decodes hn (ended_append a (by simp [Ended])) p fuel (by omega)).bind Iff.rfl ?_
    rintro _ ⟨node,p,rfl,hv⟩
    obtain ⟨p,hp⟩ := skipSpace_eq p a (r := ',' :: (xs.chars ++ r)) (by simp [isSpace])
    dsimp only
    rw [hp]
    refine (xs.decodes hn r (node::acc) start (p+1) fuel (by omega)).imp ?_
    rintro _ ⟨nodes,span,p,rfl,hvs⟩
    exact ⟨node::nodes,span,p,rfl,by simp [Node.unmarkedItems,Items.contents,hv,hvs]⟩

lemma Members.decodes (hn : src.Strict) (fs : Members) (r : List Char) (acc : List (Key × Node))
    (start pos fuel : Nat) (hf : 3*fs.chars.length ≤ fuel) :
    Decodes (fs.Distinct ∧ ((acc.map (·.1.points)).reverseAux (fs.contents.map (·.1.points))).Nodup)
      (readMembers src start fuel acc (Cursor.skipSpace ⟨pos,fs.chars ++ r⟩))
      fun x => ∃ pairs span p, x = (.dict (acc.reverseAux pairs) span,⟨p,r⟩) ∧ Node.unmarkedFields pairs = fs.contents := by
  rcases fs with ⟨l,d,a⟩ | ⟨l,d,a,fs⟩
  all_goals
    simp only [Members.chars,Label.chars,quoted,length_append,length_cons,append_assoc,cons_append,nil_append] at hf ⊢
    obtain ⟨fuel,rfl⟩ : ∃ n, fuel = n+1 := ⟨fuel-1,by omega⟩
    obtain ⟨p,hp⟩ := skipSpace_eq pos l.before (r := '"' :: _) (by simp [isSpace])
    rw [hp,readMembers]
    refine (readText_quoted src p l.key _ (p+1) (by simp; omega)).bind (true_and _).to_iff.symm ?_
    rintro _ ⟨p',rfl⟩
    obtain ⟨p',hp⟩ := skipSpace_eq p' l.after (r := ':' :: _) (by simp [isSpace])
    dsimp only
    rw [hp]
    obtain ⟨p',hp⟩ := skipSpace_eq (p'+1) l.gap (solid_chars d _)
    simp only [Cursor.advance,drop_one,tail_cons]
    rw [hp]
  · refine (d.decodes hn (ended_append a (by simp [Ended])) p' fuel (by omega)).bind Iff.rfl ?_
    rintro _ ⟨node,q,rfl,hv⟩
    obtain ⟨q,hp⟩ := skipSpace_eq q a (r := '\x7d' :: r) (by simp [isSpace])
    dsimp only
    rw [hp]
    refine (makeObject_decodes hn _ _ p).bind (q := True) ?_ ?_
    · simp [Members.contents,Label.name]
    · rintro _ rfl
      exact .ok trivial ⟨[_],_,_,rfl,by simp [Node.unmarkedFields,Members.contents,Label.name,hv]⟩
  · refine (d.decodes hn (ended_append a (by simp [Ended])) p' fuel (by omega)).bind (and_assoc) ?_
    rintro _ ⟨node,q,rfl,hv⟩
    obtain ⟨q,hp⟩ := skipSpace_eq q a (r := ',' :: _) (by simp [isSpace])
    dsimp only
    rw [hp]
    obtain ⟨q',t,hq⟩ := quote_of_members fs r (q+1)
    have h := fs.decodes hn r ((⟨denoted l.key,src.span p (p+(denoted l.key).length)⟩,node)::acc) start (q+1) fuel (by omega)
    rw [hq] at h
    simp only [tail_cons]
    rw [hq]
    refine h.imp ?_
    rintro _ ⟨pairs,span,p,rfl,hvs⟩
    exact ⟨_::pairs,span,p,rfl,by simp [Node.unmarkedFields,Members.contents,Label.name,hv,hvs]⟩

end

end InfraAudit.Template
