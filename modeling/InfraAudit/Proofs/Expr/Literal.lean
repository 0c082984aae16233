import InfraAudit.Proofs.Expr.Reading

namespace InfraAudit.Expr

open List Bool

variable {ds cs tail r : List Char} {s t : String}

lemma hexNumber?_eq_none (h : '"' ∈ ds) : Json.hexNumber? ds = none := by
  have hn : ∀ v : List Char,
      v.foldl (fun acc c => do return 16*(← acc)+(← Json.hexValue? c)) (none : Option Nat) = none := by
    intro v
    induction v with
    | nil => rfl
    | cons c v ih => exact ih
  obtain ⟨u,v,rfl⟩ := append_of_mem h
  rw [Json.hexNumber?,if_neg (by simp),foldl_append,foldl_cons]
  generalize u.foldl (fun acc c => do return 16*(← acc)+(← Json.hexValue? c)) (some 0) = acc
  cases acc with
  | none => exact hn v
  | some n => exact hn v

lemma length_le_of_hexOf (h : hexOf n r = some m) : n ≤ r.length := by
  by_contra hl
  have ht : min n r.length ≠ n := by omega
  simp [hexOf,ht] at h

lemma hexOf_append (n : Nat) (cs tail : List Char) : hexOf n (cs ++ '"' :: tail) = hexOf n cs := by
  by_cases hn : n ≤ cs.length
  · simp [hexOf,take_append_of_le_length hn]
  · have hm : '"' ∈ (cs ++ '"' :: tail).take n := by
      obtain ⟨k,hk⟩ : ∃ k, n - cs.length = k+1 := ⟨n - cs.length - 1,by omega⟩
      simp [take_append,hk]
    have hnn : hexOf n cs = none := by
      cases hcs : hexOf n cs with
      | none => rfl
      | some m => exact absurd (length_le_of_hexOf hcs) hn
    rw [hnn,hexOf,hexNumber?_eq_none hm,ite_self]

lemma takeWhile_octal_append (n : Nat) (cs tail : List Char) :
    ((cs ++ '"' :: tail).take n).takeWhile isOctalDigit = (cs.take n).takeWhile isOctalDigit := by
  induction cs generalizing n with
  | nil =>
    cases n with
    | zero => rfl
    | succ n => simp [isOctalDigit]
  | cons c cs ih =>
    cases n with
    | zero => rfl
    | succ n => simp [takeWhile_cons,ih]

lemma escape?_append (c : Char) (cs tail : List Char) : escape? false c (cs ++ '"' :: tail) = escape? false c cs := by
  simp only [escape?,hexOf_append,takeWhile_octal_append]

lemma length_le_of_escape? (h : escape? false c r = some (ds,n)) : n ≤ r.length := by
  have ho : ((r.take 2).takeWhile isOctalDigit).length ≤ r.length :=
    Nat.le_trans (takeWhile_sublist _).length_le (length_take_le' 2 r)
  unfold escape? at h
  split at h
  · grind
  split at h
  · grind
  split at h
  · simp at h
    omega
  split at h
  · obtain ⟨m,hm,he⟩ := Option.map_eq_some_iff.1 h
    have hl := length_le_of_hexOf hm
    grind
  rw [if_neg Bool.false_ne_true] at h
  split at h
  · obtain ⟨m,hm,he⟩ := Option.map_eq_some_iff.1 h
    have hl := length_le_of_hexOf hm
    grind
  split at h
  · obtain ⟨m,hm,he⟩ := Option.bind_eq_some_iff.1 h
    have hl := length_le_of_hexOf hm
    grind
  grind

lemma readQuoted_tail (hcs : '"' ∉ cs) (hm : fuel ≤ more)
    (h : readQuoted doubleQuoted fuel acc (cs ++ ['"']) = .ok (t,u)) (tail : List Char) :
    u = [] ∧ readQuoted doubleQuoted more acc (cs ++ '"' :: tail) = .ok (t,tail) := by
  induction fuel generalizing more acc cs with
  | zero => cases h
  | succ fuel ih =>
    obtain ⟨more,rfl⟩ : ∃ k, more = k+1 := ⟨more - 1,by omega⟩
    have hm : fuel ≤ more := by omega
    cases cs with
    | nil =>
      obtain ⟨rfl,rfl⟩ : String.ofList acc.reverse = t ∧ [] = u := by simpa [readQuoted,doubleQuoted] using h
      exact ⟨rfl,rfl⟩
    | cons c cs =>
      obtain ⟨hq,hcs⟩ : c ≠ '"' ∧ '"' ∉ cs := by simpa [eq_comm] using hcs
      by_cases hb : c = '\\'
      · subst hb
        cases cs with
        | nil =>
          -- The quote is escaped, so nothing closes the text.
          have hbd : readQuoted doubleQuoted fuel ('"' :: acc) [] = bad := by cases fuel <;> rfl
          have h : readQuoted doubleQuoted fuel ('"' :: acc) [] = .ok (t,u) := h
          rw [hbd] at h
          cases h
        | cons c cs =>
          have hcs : '"' ∉ cs := fun hmm => hcs (by simp [hmm])
          simp only [cons_append,readQuoted_escape,escape?_append] at h ⊢
          cases he : escape? false c cs with
          | none => simp [he,bad] at h
          | some e =>
            obtain ⟨ds,n⟩ := e
            have hn := length_le_of_escape? he
            have hd : '"' ∉ cs.drop n := fun hmm => hcs (mem_of_mem_drop hmm)
            simp only [he,drop_append_of_le_length hn] at h ⊢
            exact ih hd hm h
      · simp only [cons_append,readQuoted_char hq hb] at h ⊢
        by_cases hl : c = '\n'
        · simp [hl,bad] at h
        · rw [if_neg hl] at h ⊢
          exact ih hcs hm h

lemma plainNewlines_append (cs tail : List Char) :
    plainNewlines (cs ++ '"' :: tail) = plainNewlines cs ++ '"' :: plainNewlines tail := by
  fun_induction plainNewlines cs with
  | case1 r ih => simp [plainNewlines,ih]
  | case2 r hr ih =>
    have hr' : ∀ t, r ++ '"' :: tail = '\n' :: t → False := by
      intro t ht
      cases r with
      | nil => simp at ht
      | cons d r => exact hr r (by rw [(List.cons.inj ht).1])
    rw [cons_append,plainNewlines,ih,cons_append]
    exact hr'
  | case3 c r h1 h2 ih =>
    rw [cons_append,plainNewlines,ih,cons_append]
    · exact fun _ hc => absurd hc h2
    · exact h2
  | case4 => simp [plainNewlines]

lemma not_mem_plainNewlines (h : '"' ∉ cs) : '"' ∉ plainNewlines cs := by
  fun_induction plainNewlines cs with
  | case1 r ih => simp_all
  | case2 r hr ih => simp_all
  | case3 c r h1 h2 ih => simp_all
  | case4 => simp

lemma evaluate_of_tokens (h : tokens s = .ok [.text t]) : evaluate s = .ok (.data (.str t)) := by
  have hr : read s = .ok (.lit (.str t)) := by
    unfold read
    rw [h]
    rfl
  unfold evaluate
  rw [hr]
  rfl

lemma tokens_literal (hx : '"' ∉ x) (ht : tail = [] ∨ tail = [' '])
    (hs : (s.toList.dropWhile fun c => c == ' ' || c == '\t') = '"' :: (x ++ '"' :: tail)) : tokens s =
      if x.contains '\x00' then bad else let r := plainNewlines x ++ '"' :: tail
        readQuoted doubleQuoted (r.length+1) [] r >>= fun (t,rest) => scan (r.length+1) [] [.text t] rest := by
  have hz : ('"' :: (x ++ '"' :: tail)).contains '\x00' = x.contains '\x00' := by
    rcases ht with rfl | rfl <;> simp
  have hl : plainNewlines ('"' :: (x ++ '"' :: tail)) = '"' :: (plainNewlines x ++ '"' :: tail) := by
    have ht : plainNewlines tail = tail := by rcases ht with rfl | rfl <;> rfl
    calc plainNewlines ('"' :: (x ++ '"' :: tail))
      _ = '"' :: plainNewlines (x ++ '"' :: tail) := plainNewlines_append [] _
      _ = '"' :: (plainNewlines x ++ '"' :: tail) := by rw [plainNewlines_append,ht]
  have ht : tail.head? ≠ some '"' := by rcases ht with rfl | rfl <;> simp
  simp only [tokens,hs,hz,hl,length_cons,scan_quote,readQuotedToken_eq (not_mem_plainNewlines hx) ht]
  split
  · rfl
  · cases readQuoted doubleQuoted _ [] (plainNewlines x ++ '"' :: tail) <;> rfl

lemma evaluate_quoted (h : Formula s) : evaluate ("\"" ++ s ++ "\"") = .ok (.data (.str s)) := by
  have hp : ∀ c ∈ s.toList, c ≠ '"' ∧ c ≠ '\\' ∧ c ≠ '\n' := by
    intro c hc
    refine ⟨?_,?_,?_⟩ <;> rintro rfl <;> exact h.not_mem (by decide) hc
  have hz : s.toList.contains '\x00' = false := by simpa using h.not_mem (c := '\x00') (by decide)
  have hl : s.toList.length < (s.toList ++ ['"']).length+1 := by
    rw [length_append]
    omega
  have ht := tokens_literal (s := "\"" ++ s ++ "\"") (h.not_mem (by decide)) (.inl rfl) (by simp)
  rw [hz,plainNewlines_eq_self (h.not_mem (by decide))] at ht
  simp only [readQuoted_plain hp [] [] hl] at ht
  rw [evaluate_of_tokens ht]
  simp

lemma exists_tokens_of_evaluate (h : evaluate s = .ok d) : ∃ ts, tokens s = .ok ts := by
  cases ht : tokens s with
  | ok ts => exact ⟨ts,rfl⟩
  | error e =>
    unfold evaluate read at h
    rw [ht] at h
    cases h

lemma evaluate_between_blanks {x : String} (hx : '"' ∉ x.toList) (h : evaluate ("\"" ++ x ++ "\"") = .ok d) :
    ∃ t, d = .data (.str t) ∧ evaluate (" \"" ++ x ++ "\" ") = .ok d := by
  have hb := tokens_literal hx (.inl rfl) (s := "\"" ++ x ++ "\"") (by simp)
  have hp := tokens_literal hx (.inr rfl) (s := " \"" ++ x ++ "\" ") (by simp)
  obtain ⟨ts,ht⟩ := exists_tokens_of_evaluate h
  rw [hb] at ht
  cases hz : x.toList.contains '\x00' with
  | true =>
    rw [hz] at ht
    cases ht
  | false =>
    simp only [hz,false_eq_true,if_false] at hb hp ht
    cases hr : readQuoted doubleQuoted ((plainNewlines x.toList ++ ['"']).length+1) []
        (plainNewlines x.toList ++ ['"']) with
    | error e =>
      rw [hr] at ht
      cases ht
    | ok p =>
      obtain ⟨t,u⟩ := p
      have hm : (plainNewlines x.toList ++ ['"']).length+1 ≤ (plainNewlines x.toList ++ ['"',' ']).length+1 := by
        simp
      obtain ⟨rfl,htl⟩ := readQuoted_tail (not_mem_plainNewlines hx) hm hr [' ']
      have hb : tokens ("\"" ++ x ++ "\"") = .ok [.text t] := by
        rw [hb,hr]
        rfl
      have hp : tokens (" \"" ++ x ++ "\" ") = .ok [.text t] := by
        rw [hp,htl]
        simp only [length_append,length_cons]
        rfl
      rw [evaluate_of_tokens hb] at h
      cases h
      exact ⟨t,rfl,evaluate_of_tokens hp⟩

end InfraAudit.Expr
