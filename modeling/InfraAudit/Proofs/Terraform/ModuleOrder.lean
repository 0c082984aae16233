import InfraAudit.Proofs.Success
import InfraAudit.Proofs.Terraform.ModuleKey

namespace InfraAudit.Text

open List

variable {a b h : List Char}

lemma prefix_append_cons (hc : c ∉ h) (hp : h <+: a ++ c :: b) : h <+: a := by
  rcases prefix_or_prefix_of_prefix hp (prefix_append a (c::b)) with hle | ⟨t,rfl⟩
  · exact hle
  · rcases prefix_cons_iff.1 ((prefix_append_right_inj a).1 hp) with rfl | ⟨t,rfl,-⟩
    · simp
    · simp at hc

lemma infix_append_cons (hc : c ∉ h) (hin : h <:+: a ++ c :: b) : h <:+: a ∨ h <:+: b := by
  induction a with
  | nil =>
    rcases infix_cons_iff.1 hin with hp | hr
    · exact .inl (prefix_append_cons (a := []) hc hp).isInfix
    · exact .inr hr
  | cons d a ih =>
    rcases infix_cons_iff.1 hin with hp | hr
    · exact .inl (prefix_append_cons (a := d :: a) hc hp).isInfix
    · exact (ih hr).imp_left infix_cons

end InfraAudit.Text

namespace InfraAudit.Terraform.ModulePath

open List Text

structure IsFile (path : String) : Prop where
  ends : Text.endsWith path ".tf"
  unmarked : ∀ c ∈ ['[',']','#'], c ∉ path.toList

structure IsCall (m : ModulePath) : Prop where
  path : IsFile m.path
  caller : IsFile m.caller
  line : '\n' ∉ m.caller.toList
  number : m.number ≠ ""
  digits : ∀ c ∈ m.number.toList, c.isDigit

lemma IsCall.not_mem_number (hm : IsCall m) {c : Char} (hc : c.isDigit = false) : c ∉ m.number.toList := by
  intro hmm
  rw [hm.digits c hmm] at hc
  cases hc

lemma IsCall.isReadable (hm : IsCall m) : IsReadable m where
  path := hm.path.unmarked '[' (by simp)
  ends := hm.caller.ends
  once := contains_eq_false (c := '#') (by simp) (hm.caller.unmarked '#' (by simp))
  number := hm.number
  line := by simpa using ⟨hm.line,hm.not_mem_number (c := '\n') (by decide)⟩

lemma contains_key (hm : IsCall m) (hh : IsFile h) :
    Text.contains m.key h ↔ Text.contains m.path h ∨ Text.contains m.caller h := by
  simp only [contains_iff,toList_key]
  constructor
  · intro hin
    rcases infix_append_cons (hh.unmarked '[' (by simp)) hin with hp | hin
    · exact .inl hp
    · rcases infix_append_cons (hh.unmarked '#' (by simp)) hin with hc | hin
      · exact .inr hc
      · obtain ⟨stem,hs⟩ := exists_stem hh.ends
        have ht : 't' ∈ m.number.toList ++ [']'] := hin.subset (by simp [hs])
        exact absurd (by simpa using ht) (hm.not_mem_number (c := 't') (by decide))
  · rintro (hp | hc)
    · exact hp.trans (prefix_append _ _).isInfix
    · exact (hc.trans (prefix_append _ _).isInfix).trans ((suffix_cons '[' _).trans (suffix_append _ _)).isInfix

lemma head_key (hm : IsCall m) : (Text.split m.key "[").headD "" = m.path := by
  have hs : splitChars ['['] m.key.toList = m.path.toList ::
      splitOn '[' (m.caller.toList ++ '#' :: (m.number.toList ++ [']'])) := by
    rw [toList_key]
    exact (splitAux_eq '[' [] _).trans (splitOn_append_cons_self_of_not_mem (hm.path.unmarked '[' (by simp)) _)
  have hb : "[".toList = ['['] := rfl
  rw [split,hb,hs,map_cons,headD_cons,String.ofList_toList]

lemma IsFile.endsWith_bracket {path : String} (h : IsFile path) : Text.endsWith path "]" = false := by
  rw [Bool.eq_false_iff]
  intro he
  exact h.unmarked ']' (by simp) ((isSuffixOf_iff_suffix.1 he).subset (by simp))

end InfraAudit.Terraform.ModulePath

namespace InfraAudit.Terraform

open ModulePath (IsFile IsCall)
open List ModuleTree ModulePath

/-- The keys that are handled, round by round. -/
def rounds : Nat → List String → List String → Result (List (List String))
  | 0,_,_ => .ok []
  | n+1,handled,waiting => do
    let (next,rest) := nextKeys handled waiting
    if next.isEmpty then return []
    let paths ← next.mapM fun k => do return (← read k).path
    return next :: (← rounds n (handled ++ paths) rest)

lemma addLevels_eq (definitions : List (String × Value)) (t : ModuleTree) (h : rounds n ha waiting = .ok rs) :
    addLevels definitions n t ha waiting = rs.flatten.foldlM (addKey definitions) t := by
  induction n generalizing t ha waiting rs with
  | zero =>
    cases h
    rfl
  | succ n ih =>
    rw [rounds] at h
    rw [addLevels]
    dsimp only at h ⊢
    split at h
    · next hn =>
      cases h
      rw [if_pos hn]
      rfl
    · next hs =>
      obtain ⟨paths,hp,h⟩ := bind_eq_ok.1 h
      obtain ⟨rest,hr,h⟩ := bind_eq_ok.1 h
      cases h
      rw [if_neg hs,flatten_cons,foldlM_append,hp]
      refine congrArg _ (funext fun t' => ?_)
      exact ih t' hr

/-- The least set of paths with the given files and each loaded path all of whose callers are in it. -/
inductive Reached (files : List String) (calls : List ModulePath) : String → Prop
  | file {p : String} : p ∈ files → Reached files calls p
  | loaded {p : String} : (∃ m ∈ calls, m.path = p) → (∀ m ∈ calls, m.path = p → Reached files calls m.caller) →
      Reached files calls p

/-- Each call is handled behind its caller and together with the other calls of its path, once, if its path can be reached. -/
structure InOrder (files : List String) (calls : List ModulePath) (rs : List (List ModulePath)) : Prop where
  after : ∀ i, ∀ m ∈ rs.getD i [], m.caller ∈ files ∨ ∃ j < i, ∃ m' ∈ rs.getD j [], m'.path = m.caller
  together : ∀ i, ∀ m ∈ rs.getD i [], ∀ m' ∈ calls, m'.path = m.path → m' ∈ rs.getD i []
  once : rs.flatten.Nodup
  complete : ∀ m, m ∈ rs.flatten ↔ m ∈ calls ∧ Reached files calls m.path

/-- Files and calls whose paths can be told apart in keys. -/
structure Loaded (files : List String) (calls : List ModulePath) : Prop where
  file : ∀ p ∈ files, IsFile p
  call : ∀ m ∈ calls, IsCall m
  apart : ∀ p ∈ files ++ calls.map (·.path), ∀ m ∈ calls, ∀ q ∈ [m.path,m.caller], Text.contains q p → p = q
  unloaded : ∀ m ∈ calls, m.path ∉ files
  distinct : calls.Nodup

def Ready (files : List String) (calls : List ModulePath) (p : String) : Prop := ∀ m ∈ calls, m.path = p → m.caller ∈ files

structure Round (files : List String) (calls next rest : List ModulePath) : Prop where
  mem_next : ∀ m, m ∈ next ↔ m ∈ calls ∧ Ready files calls m.path
  mem_rest : ∀ m, m ∈ rest ↔ m ∈ calls ∧ ¬ Ready files calls m.path
  nodup_next : next.Nodup
  nodup_rest : rest.Nodup

def nextCalls (files : List String) (calls : List ModulePath) : List ModulePath × List ModulePath :=
  let next := calls.filter fun m => decide (m.caller ∈ files)
  let blocked := (calls.filter fun m => !decide (m.caller ∈ files)).map (·.path)
  (next.filter fun m => !blocked.contains m.path,
    (calls.filter fun m => !decide (m.caller ∈ files)) ++ next.filter fun m => blocked.contains m.path)

section

variable {files : List String} {calls next rest : List ModulePath}

lemma Ready.reached (h : Ready files calls m.path) (hm : m ∈ calls) : Reached files calls m.path :=
  .loaded ⟨m,hm,rfl⟩ fun m' hm' hpt => .file (h m' hm' hpt)

lemma reached_iff (h : Round files calls next rest) :
    Reached (files ++ next.map (·.path)) rest p ↔ Reached files calls p := by
  constructor
  · intro hp
    induction hp with
    | file hp =>
      rcases mem_append.1 hp with hp | hp
      · exact .file hp
      · obtain ⟨m,hm,rfl⟩ := mem_map.1 hp
        obtain ⟨hc,hr⟩ := (h.mem_next m).1 hm
        exact hr.reached hc
    | loaded hex _ ih =>
      obtain ⟨m,hm,rfl⟩ := hex
      obtain ⟨hc,hw⟩ := (h.mem_rest m).1 hm
      refine .loaded ⟨m,hc,rfl⟩ fun m' hm' hpt => ?_
      exact ih m' ((h.mem_rest m').2 ⟨hm',hpt ▸ hw⟩) hpt
  · intro hp
    induction hp with
    | file hp => exact .file (mem_append_left _ hp)
    | loaded hex _ ih =>
      obtain ⟨m,hm,rfl⟩ := hex
      by_cases hr : Ready files calls m.path
      · exact .file (mem_append_right _ (mem_map_of_mem ((h.mem_next m).2 ⟨hm,hr⟩)))
      · refine .loaded ⟨m,(h.mem_rest m).2 ⟨hm,hr⟩,rfl⟩ fun m' hm' hpt => ?_
        exact ih m' ((h.mem_rest m').1 hm').1 hpt

variable {rs : List (List ModulePath)}

lemma not_reached (h : Round files calls [] rest) (hn : ∀ m ∈ calls, m.path ∉ files) (hm : m ∈ calls) :
    ¬ Reached files calls m.path := by
  have ha : ∀ p, Reached files calls p → p ∈ files := by
    intro p hp
    induction hp with
    | file hp => exact hp
    | loaded hex _ ih =>
      obtain ⟨m,hm,rfl⟩ := hex
      exact absurd ((h.mem_next m).2 ⟨hm,ih⟩) not_mem_nil
  exact fun hp => hn m hm (ha _ hp)

lemma mem_flatten_of_getD (h : m ∈ rs.getD i []) : m ∈ rs.flatten := by
  rw [getD_eq_getElem?_getD] at h
  cases hi : rs[i]? with
  | none => simp [hi] at h
  | some r => exact mem_flatten.2 ⟨r,mem_of_getElem? hi,by simpa [hi] using h⟩

lemma InOrder.nil (h : Round files calls [] rest) (hn : ∀ m ∈ calls, m.path ∉ files) : InOrder files calls [] where
  after := by simp
  together := by simp
  once := by simp
  complete m := by
    simp only [flatten_nil,not_mem_nil,false_iff,not_and]
    exact fun hm => not_reached h hn hm

lemma InOrder.cons (h : Round files calls next rest)
    (hrs : InOrder (files ++ next.map (·.path)) rest rs) : InOrder files calls (next::rs) where
  after := by
    intro i m hm
    cases i with
    | zero =>
      obtain ⟨hc,hr⟩ := (h.mem_next m).1 hm
      exact .inl (hr m hc rfl)
    | succ i =>
      rcases hrs.after i m hm with hf | ⟨j,hj,m',hm',hpt⟩
      · rcases mem_append.1 hf with hf | hrn
        · exact .inl hf
        · obtain ⟨m',hm',hpt⟩ := mem_map.1 hrn
          exact .inr ⟨0,by omega,m',hm',hpt⟩
      · exact .inr ⟨j+1,by omega,m',hm',hpt⟩
  together := by
    intro i m hm m' hm' hpt
    cases i with
    | zero => exact (h.mem_next m').2 ⟨hm',hpt ▸ ((h.mem_next m).1 hm).2⟩
    | succ i =>
      have hrt : m ∈ rest := ((hrs.complete m).1 (mem_flatten_of_getD hm)).1
      exact hrs.together i m hm m' ((h.mem_rest m').2 ⟨hm',hpt ▸ ((h.mem_rest m).1 hrt).2⟩) hpt
  once := by
    rw [flatten_cons,nodup_append]
    refine ⟨h.nodup_next,hrs.once,fun m hm m' hm' heq => ?_⟩
    subst heq
    exact ((h.mem_rest m).1 ((hrs.complete m).1 hm').1).2 ((h.mem_next m).1 hm).2
  complete := by
    intro m
    rw [flatten_cons,mem_append,h.mem_next,hrs.complete,reached_iff h,h.mem_rest]
    constructor
    · rintro (⟨hm,hr⟩ | ⟨⟨hm,-⟩,hp⟩)
      · exact ⟨hm,hr.reached hm⟩
      · exact ⟨hm,hp⟩
    · rintro ⟨hm,hp⟩
      by_cases hr : Ready files calls m.path
      · exact .inl ⟨hm,hr⟩
      · exact .inr ⟨⟨hm,hr⟩,hp⟩

lemma any_contains_key (h : Loaded files calls) (hm : m ∈ calls) :
    (files.any fun p => Text.contains m.key p) = decide (m.caller ∈ files) := by
  rw [Bool.eq_iff_iff,any_eq_true,decide_eq_true_iff]
  constructor
  · rintro ⟨p,hp,hin⟩
    rcases (contains_key (h.call m hm) (h.file p hp)).1 hin with hpt | hc
    · have heq := h.apart p (mem_append_left _ hp) m hm m.path (by simp) hpt
      exact absurd (heq ▸ hp) (h.unloaded m hm)
    · exact h.apart p (mem_append_left _ hp) m hm m.caller (by simp) hc ▸ hp
  · intro hp
    have hs : Text.contains m.caller m.caller := Text.contains_iff.2 (infix_refl _)
    exact ⟨m.caller,hp,(contains_key (h.call m hm) (h.file _ hp)).2 (.inr hs)⟩

lemma filter_map_key (ms : List ModulePath) (f : String → Bool) (h : ∀ m ∈ ms, f m.key = g m) :
    (ms.map (·.key)).filter f = (ms.filter g).map (·.key) := by
  rw [filter_map]
  exact congrArg _ (filter_congr h)

lemma nextKeys_eq (h : Loaded files calls) :
    nextKeys files (calls.map (·.key)) = ((nextCalls files calls).1.map (·.key),(nextCalls files calls).2.map (·.key)) := by
  have hr := filter_map_key calls (fun k => files.any fun p => Text.contains k p) fun m hm => any_contains_key h hm
  have hw := filter_map_key calls (fun k => !files.any fun p => Text.contains k p)
    fun m hm => congrArg Bool.not (any_contains_key h hm)
  have hb : ((calls.filter fun m => !decide (m.caller ∈ files)).map (·.key)).map
      (fun k => (Text.split k "[").headD "") = (calls.filter fun m => !decide (m.caller ∈ files)).map (·.path) := by
    rw [map_map]
    exact map_congr_left fun m hm => head_key (h.call m (mem_filter.1 hm).1)
  have hh : ∀ q : String → Bool, ((calls.filter fun m => decide (m.caller ∈ files)).map (·.key)).filter
      (fun k => q ((Text.split k "[").headD "")) =
      ((calls.filter fun m => decide (m.caller ∈ files)).filter fun m => q m.path).map (·.key) :=
    fun q => filter_map_key _ _ fun m hm => congrArg q (head_key (h.call m (mem_filter.1 hm).1))
  unfold nextKeys nextCalls
  dsimp only
  rw [hr,hw,hb,hh fun p => !contains _ p,hh fun p => contains _ p,map_append]

lemma round_nextCalls (files : List String) (h : calls.Nodup) :
    Round files calls (nextCalls files calls).1 (nextCalls files calls).2 := by
  have hb : ∀ p, (((calls.filter fun m => !decide (m.caller ∈ files)).map (·.path)).contains p) ↔
      ¬ Ready files calls p := by
    intro p
    simp only [contains_iff_mem,mem_map,mem_filter,Bool.not_eq_true',decide_eq_false_iff_not,Ready]
    grind
  have hs : ∀ m ∈ calls, Ready files calls m.path → m.caller ∈ files := fun m hm hr => hr m hm rfl
  constructor
  · intro m
    simp only [nextCalls,mem_filter,decide_eq_true_iff,Bool.not_eq_true',← Bool.not_eq_true,hb]
    grind
  · intro m
    simp only [nextCalls,mem_append,mem_filter,decide_eq_true_iff,Bool.not_eq_true',decide_eq_false_iff_not,hb]
    grind
  · exact (h.filter _).filter _
  · refine nodup_append.2 ⟨h.filter _,(h.filter _).filter _,fun m hm m' hm' heq => ?_⟩
    subst heq
    simp only [mem_filter,decide_eq_true_iff,Bool.not_eq_true',decide_eq_false_iff_not] at hm hm'
    exact hm.2 hm'.1.2

lemma Loaded.step (h : Loaded files calls) (hr : Round files calls next rest) :
    Loaded (files ++ next.map (·.path)) rest where
  file := forall_mem_append.2 ⟨h.file,forall_mem_map.2 fun m hm => (h.call m ((hr.mem_next m).1 hm).1).path⟩
  call m hm := h.call m ((hr.mem_rest m).1 hm).1
  apart p hp m hm := by
    have hs : ∀ q ∈ next.map (·.path) ++ rest.map (·.path), q ∈ calls.map (·.path) := by
      simp only [mem_append,mem_map,hr.mem_next,hr.mem_rest]
      grind
    refine h.apart p ?_ m ((hr.mem_rest m).1 hm).1
    rw [append_assoc,mem_append] at hp
    exact mem_append.2 (hp.imp_right (hs p))
  unloaded m hm := by
    obtain ⟨hc,hw⟩ := (hr.mem_rest m).1 hm
    rw [mem_append,not_or]
    refine ⟨h.unloaded m hc,fun hp => ?_⟩
    obtain ⟨m',hm',hpt⟩ := mem_map.1 hp
    exact hw (hpt ▸ ((hr.mem_next m').1 hm').2)
  distinct := hr.nodup_rest

lemma mapM_read_key {ms : List ModulePath} (h : ∀ m ∈ ms, IsCall m) :
    (ms.map (·.key)).mapM (fun k => do return (← read k).path : String → Result String) = .ok (ms.map (·.path)) := by
  refine mapM_eq_ok.2 (forall₂_map_left_iff.2 (forall₂_map_right_iff.2 (forall₂_same.2 fun m hm => ?_)))
  rw [read_key (h m hm).isReadable]
  rfl

lemma length_rest (hr : Round files calls next rest) (hn : next ≠ []) : rest.length < calls.length := by
  obtain ⟨m,hm⟩ := exists_mem_of_ne_nil next hn
  obtain ⟨hc,hrd⟩ := (hr.mem_next m).1 hm
  have hnw : m ∉ rest := fun hrs => ((hr.mem_rest m).1 hrs).2 hrd
  have hs : m :: rest ⊆ calls := by
    refine cons_subset.2 ⟨hc,fun m' hm' => ((hr.mem_rest m').1 hm').1⟩
  exact (List.Nodup.subperm (nodup_cons.2 ⟨hnw,hr.nodup_rest⟩) hs).length_le

lemma rounds_of_nil (h : nextKeys files waiting = ([],left)) (n : Nat) : rounds n files waiting = .ok [] := by
  cases n with
  | zero => rfl
  | succ n =>
    rw [rounds,h]
    rfl

lemma exists_rounds (k : Nat) (h : Loaded files calls) (hk : calls.length ≤ k) : ∃ rs, InOrder files calls rs ∧
      ∀ n ≥ k, rounds n files (calls.map (·.key)) = .ok (rs.map fun r => r.map (·.key)) := by
  induction k generalizing files calls with
  | zero =>
    obtain rfl : calls = [] := eq_nil_of_length_eq_zero (by omega)
    exact ⟨[],.nil (round_nextCalls files h.distinct) h.unloaded,fun n _ => rounds_of_nil (nextKeys_eq h) n⟩
  | succ k ih =>
    have hnx := nextKeys_eq h
    have hr := round_nextCalls files h.distinct
    generalize (nextCalls files calls).1 = next at hnx hr
    generalize (nextCalls files calls).2 = rest at hnx hr
    by_cases hnl : next = []
    · subst hnl
      exact ⟨[],.nil hr h.unloaded,fun n _ => rounds_of_nil hnx n⟩
    · have hl := length_rest hr hnl
      obtain ⟨rs,hrs,hrn⟩ := ih (h.step hr) (by omega)
      refine ⟨next :: rs,.cons hr hrs,fun n hn => ?_⟩
      obtain ⟨n,rfl⟩ : ∃ n', n = n'+1 := ⟨n - 1,by omega⟩
      have hrd := mapM_read_key fun m hm => h.call m ((hr.mem_next m).1 hm).1
      have he : ¬ (next.map (·.key)).isEmpty = true := by simpa using hnl
      rw [rounds,hnx]
      dsimp only
      rw [if_neg he,hrd]
      simp only [ok_bind]
      rw [hrn n (by omega)]
      rfl

end

def Knows (t : ModuleTree) (files : List String) : Prop := ∀ p ∈ files, (t.trails.lookup (PathName.dirname p)).isSome

lemma isSome_lookup_upsert (k k' : String) (d : β) (f : β → β) (xs : List (String × β)) :
    ((upsert k d f xs).lookup k').isSome = (k' == k || (xs.lookup k').isSome) := by
  rw [lookup_upsert]
  cases k' == k <;> rfl

lemma knows_start (plain : List (String × Value)) : Knows (start plain) (plain.map Prod.fst) := by
  have hf : ∀ (acc : List (String × List (List String))) (k : String),
      ((plain.foldl (fun acc x => upsert (PathName.dirname x.1) [[]] id acc) acc).lookup k).isSome =
        ((acc.lookup k).isSome || plain.any fun x => k == PathName.dirname x.1) := by
    induction plain with
    | nil => simp
    | cons x xs ih =>
      intro acc k
      rw [foldl_cons,ih,isSome_lookup_upsert,any_cons,Bool.or_assoc,Bool.or_left_comm]
  intro p hp
  obtain ⟨x,hx,rfl⟩ := mem_map.1 hp
  refine (hf [] _).trans (any_eq_true.2 ⟨x,hx,beq_self_eq_true _⟩)

lemma addKey_ok (definitions : List (String × Value)) (hm : IsCall m) (ht : Knows t files) (hc : m.caller ∈ files) :
    ∃ t', addKey definitions t m.key = .ok t' ∧ Knows t' (files ++ [m.path]) := by
  obtain ⟨callers,hcl⟩ := Option.isSome_iff_exists.1 (ht _ hc)
  unfold addKey
  rw [read_key hm.isReadable]
  simp only [ok_bind,hcl]
  refine ⟨_,rfl,fun p hp => ?_⟩
  dsimp only
  rw [isSome_lookup_upsert,Bool.or_eq_true]
  rcases mem_append.1 hp with hp | hp
  · exact .inr (ht p hp)
  · left
    rw [mem_singleton.1 hp]
    exact beq_self_eq_true _

lemma foldlM_addKey_round (definitions : List (String × Value)) {ms : List ModulePath}
    (hms : ∀ m ∈ ms, IsCall m ∧ m.caller ∈ files) (ht : Knows t files) :
    ∃ t', (ms.map (·.key)).foldlM (addKey definitions) t = .ok t' ∧ Knows t' (files ++ ms.map (·.path)) := by
  induction ms generalizing files t with
  | nil => exact ⟨t,rfl,by simpa using ht⟩
  | cons m ms ih =>
    obtain ⟨hm,hc⟩ := hms m (by simp)
    obtain ⟨t₁,hf,ht₁⟩ := addKey_ok definitions hm ht hc
    obtain ⟨t₂,hr,ht₂⟩ := ih (fun m' hm' => (hms m' (by simp [hm'])).imp_right (mem_append_left _)) ht₁
    refine ⟨t₂,?_,by simpa using ht₂⟩
    rw [map_cons,foldlM_cons,hf]
    exact hr

lemma foldlM_addKey_rounds (definitions : List (String × Value)) {rs : List (List ModulePath)} (hrs : ∀ m ∈ rs.flatten, IsCall m)
    (ha : ∀ i, ∀ m ∈ rs.getD i [], m.caller ∈ files ∨ ∃ j < i, ∃ m' ∈ rs.getD j [], m'.path = m.caller)
    (ht : Knows t files) : ∃ t', (rs.flatten.map (·.key)).foldlM (addKey definitions) t = .ok t' := by
  induction rs generalizing files t with
  | nil => exact ⟨t,rfl⟩
  | cons r rs ih =>
    have hr : ∀ m ∈ r, IsCall m ∧ m.caller ∈ files := by
      intro m hm
      rcases ha 0 m hm with hc | ⟨j,hj,-⟩
      · exact ⟨hrs m (by simp [hm]),hc⟩
      · omega
    obtain ⟨t₁,hf,ht₁⟩ := foldlM_addKey_round definitions hr ht
    have hl : ∀ i, ∀ m ∈ rs.getD i [], m.caller ∈ files ++ r.map (·.path) ∨
        ∃ j < i, ∃ m' ∈ rs.getD j [], m'.path = m.caller := by
      intro i m hm
      rcases ha (i+1) m hm with hc | ⟨j,hj,m',hm',hp⟩
      · exact .inl (mem_append_left _ hc)
      · cases j with
        | zero => exact .inl (mem_append_right _ (mem_map.2 ⟨m',hm',hp⟩))
        | succ j => exact .inr ⟨j,by omega,m',hm',hp⟩
    obtain ⟨t₂,hrt⟩ := ih (fun m hm => hrs m (by simp [hm])) hl ht₁
    refine ⟨t₂,?_⟩
    rw [flatten_cons,map_append,foldlM_append,hf]
    exact hrt

def keyText : String ⊕ ModulePath → String := Sum.elim id key

def filesOf (keys : List (String ⊕ ModulePath)) : List String := keys.filterMap Sum.getLeft?

def callsOf (keys : List (String ⊕ ModulePath)) : List ModulePath := keys.filterMap Sum.getRight?

lemma filter_keyText {keys : List (String ⊕ ModulePath)} (h : ∀ p ∈ filesOf keys, IsFile p) :
    (keys.map keyText).filter (fun k => !Text.endsWith k "]") = filesOf keys ∧
      (keys.map keyText).filter (fun k => Text.endsWith k "]") = (callsOf keys).map (·.key) := by
  induction keys with
  | nil => exact ⟨rfl,rfl⟩
  | cons k keys ih =>
    cases k with
    | inl p =>
      have hp : Text.endsWith p "]" = false := (h p (by simp [filesOf])).endsWith_bracket
      obtain ⟨hf,hc⟩ := ih fun q hq => h q (mem_cons_of_mem p hq)
      simpa [keyText,hp,filesOf,callsOf] using ⟨hf,hc⟩
    | inr m =>
      obtain ⟨hf,hc⟩ := ih fun q hq => h q hq
      simpa [keyText,endsWith_key m,filesOf,callsOf] using ⟨hf,hc⟩

/-- Files that calls load are handled round by round, each behind its callers, until no further one can be reached. A file
whose name has a line break calls nothing that can be read back from a key. -/
theorem handled_in_call_order {keys : List (String ⊕ ModulePath)} (h : Loaded (filesOf keys) (callsOf keys))
    {definitions : List (String × Value)} (hkeys : definitions.map Prod.fst = keys.map keyText) :
    ∃ rs t, InOrder (filesOf keys) (callsOf keys) rs ∧ (∀ n ≥ (callsOf keys).length,
        rounds n (filesOf keys) ((callsOf keys).map (·.key)) = .ok (rs.map fun r => r.map (·.key))) ∧
      (rs.flatten.map (·.key)).foldlM (addKey definitions)
        (start (definitions.filter fun x => !Text.endsWith x.1 "]")) = .ok t ∧
      of definitions = .ok t.withDistinctTrails := by
  obtain ⟨rs,hrs,hrounds⟩ := exists_rounds _ h (Nat.le_refl _)
  obtain ⟨hfiles,hcalls⟩ := filter_keyText h.file
  have hplain : (definitions.filter fun x => !Text.endsWith x.1 "]").map Prod.fst = filesOf keys := by
    rw [← hfiles,← hkeys,filter_map]
    rfl
  have hknown := knows_start (definitions.filter fun x => !Text.endsWith x.1 "]")
  rw [hplain] at hknown
  obtain ⟨t,ht⟩ := foldlM_addKey_rounds definitions (fun m hm => h.call m ((hrs.complete m).1 hm).1) hrs.after hknown
  refine ⟨rs,t,hrs,hrounds,ht,?_⟩
  have hlevels := addLevels_eq definitions (start (definitions.filter fun x => !Text.endsWith x.1 "]"))
    (hrounds ((callsOf keys).length+1) (Nat.le_succ _))
  rw [← map_flatten,ht] at hlevels
  unfold of
  dsimp only
  rw [hkeys,hcalls,hplain,length_map,hlevels]
  rfl

def callChain : List (String ⊕ ModulePath) := [.inr ⟨"n/y.tf","m/x.tf","0"⟩,.inl "a.tf",.inr ⟨"m/x.tf","a.tf","0"⟩]

theorem handled_in_call_order_chain : ∃ rs t, InOrder ["a.tf"] (callsOf callChain) rs ∧
      rs.map (fun r => r.map (·.key)) = [["m/x.tf[a.tf#0]"],["n/y.tf[m/x.tf#0]"]] ∧
      of (callChain.map fun k => (keyText k,.null)) = .ok t := by
  have hfile : ∀ p ∈ ["a.tf","m/x.tf","n/y.tf"], IsFile p := fun p hp =>
    ⟨by revert p; decide +kernel,by revert p; simp⟩
  have hloaded : Loaded (filesOf callChain) (callsOf callChain) :=
    { file := fun p hp => hfile p (by revert p; decide)
      call := fun m hm =>
        ⟨hfile _ (by revert m; decide),hfile _ (by revert m; decide),by revert m; decide +kernel,by revert m; decide,
          by revert m; simp [callsOf,callChain]⟩
      apart := by decide +kernel
      unloaded := by decide +kernel
      distinct := by decide }
  have hkeys : (callChain.map fun k => (keyText k,Value.null)).map Prod.fst = callChain.map keyText := by simp
  obtain ⟨rs,t,hrs,hrounds,-,ht⟩ := handled_in_call_order hloaded hkeys
  have heval : (rounds 2 (filesOf callChain) ((callsOf callChain).map (·.key))).toOption =
      some [["m/x.tf[a.tf#0]"],["n/y.tf[m/x.tf#0]"]] := by decide +kernel
  rw [hrounds 2 (by decide)] at heval
  exact ⟨rs,_,hrs,Option.some.inj heval,ht⟩

end InfraAudit.Terraform
