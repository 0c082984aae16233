import InfraAudit.Json.Path
import InfraAudit.Proofs.Success

/-!
Where path queries lead. A place whose path is written like a plain name is the attribute of that name, and a path that only
names fields looks at one attribute.
-/

namespace InfraAudit.Json

open List Spot Json.Path Fields

/-- What is given, if anything is, satisfies a property. -/
def Yields {α : Type} (P : α → Prop) (r : Result α) : Prop := ∀ a, r = .ok a → P a

namespace Yields

variable {α β : Type} {P : α → Prop} {Q : β → Prop}

lemma of_ok {a : α} (h : P a) : Yields P (.ok a) := by
  rintro _ ⟨⟩
  exact h

lemma of_error (e : Fault) : Yields P (.error e) := nofun

lemma bind {r : Result α} {f : α → Result β} (hr : Yields P r) (hf : ∀ a, P a → Yields Q (f a)) : Yields Q (r >>= f) := by
  intro b hb
  obtain ⟨a,ha,hb⟩ := bind_eq_ok.1 hb
  exact hf a (hr a ha) b hb

lemma any (r : Result α) : Yields (fun _ => True) r := fun _ _ => trivial

lemma mapM {f : α → Result β} {xs : List α} (h : ∀ x ∈ xs, Yields Q (f x)) :
    Yields (fun ys => ∀ y ∈ ys, Q y) (xs.mapM f) := by
  induction xs with
  | nil => exact of_ok (by simp)
  | cons x xs ih =>
    rw [mapM_cons]
    refine (h x mem_cons_self).bind fun y hy => ?_
    refine (ih fun x hx => h x (mem_cons_of_mem _ hx)).bind fun ys hys => of_ok ?_
    simpa using ⟨hy,hys⟩

lemma filterM (p : α → Result Bool) (xs : List α) : Yields (fun ys => ∀ y ∈ ys, y ∈ xs) (xs.filterM p) := by
  intro ys hys y hy
  obtain ⟨-,rfl⟩ := filterM_eq_ok.1 hys
  exact mem_of_mem_filter hy

end Yields

lemma has_of_mem {f : String × Value} (hf : f ∈ block) : has block f.1 := isSome_lookup hf

def Spot.outer (s : Spot) : Value := s.above.getLast?.getD s.value

def FirstStep (block : Fields) (step : String) : Prop := '[' ∈ step.toList ∨ ∃ n, has block n ∧ step = stepName n

/-- It counts as a list where positions are asked of it. -/
structure Placed (block : Fields) (s : Spot) : Prop where
  length : s.steps.length = s.above.length
  outer : s.outer = .dict block ∨ ∃ xs, s.outer = .list xs
  first : ∀ step, s.steps.getLast? = some step → FirstStep block step

namespace Placed

lemma start (block : Fields) : Placed block {value := .dict block} := ⟨rfl,.inl rfl,nofun⟩

section

variable (h : Placed block s)

include h

lemma value (hs : s.steps = []) : s.value = .dict block ∨ ∃ xs, s.value = .list xs := by
  have ha : s.above = [] := by
    have hl := h.length
    rw [hs] at hl
    exact length_eq_zero_iff.1 hl.symm
  have ho : s.outer = s.value := by simp [Spot.outer,ha]
  exact ho ▸ h.outer

lemma atTop : Placed block s.atTop := by
  have hv : s.atTop = {value := s.outer} := by
    unfold Spot.atTop Spot.outer
    cases s.above.getLast? <;> rfl
  rw [hv]
  exact ⟨rfl,h.outer,nofun⟩

lemma up : ∀ m ∈ s.up, Placed block m := by
  intro m hm
  obtain ⟨value,steps,above⟩ := s
  match steps, above, h with
  | [],_,_ => cases above <;> simp [up] at hm
  | _::_,[],_ => simp [up] at hm
  | x::steps,v :: above,h =>
    obtain rfl : m = ⟨v,steps,above⟩ := by simpa [up] using hm
    refine ⟨by simpa using h.length,?_,fun step hs => h.first step ?_⟩
    · have ho : Spot.outer ⟨v,steps,above⟩ = Spot.outer ⟨value,x::steps,v :: above⟩ := by
        simp [Spot.outer,getLast?_cons]
      rw [ho]
      exact h.outer
    · have hl : steps.getLast? = some step := hs
      simp [getLast?_cons,hl]

lemma down {step : String} (hs : s.steps = [] → FirstStep block step) (v : Value) : Placed block (s.down step v) := by
  refine ⟨by simpa [Spot.down] using h.length,?_,fun x hx => ?_⟩
  · have ho : (s.down step v).outer = s.outer := by simp [Spot.outer,Spot.down,getLast?_cons]
    rw [ho]
    exact h.outer
  · simp only [Spot.down,getLast?_cons,Option.some.injEq] at hx
    cases hl : s.steps.getLast? with
    | none =>
      rw [hl] at hx
      subst hx
      exact hs (getLast?_eq_none_iff.1 hl)
    | some last =>
      rw [hl] at hx
      subst hx
      exact h.first _ hl

lemma asList (xs : List Value) : Placed block {s with value := .list xs} := by
  refine ⟨h.length,?_,h.first⟩
  cases hl : s.above.getLast? with
  | none => exact .inr ⟨xs,by simp [Spot.outer,hl]⟩
  | some v =>
    have ho : Spot.outer {s with value := .list xs} = s.outer := by simp [Spot.outer,hl]
    rw [ho]
    exact h.outer

end

lemma position (block : Fields) (i : Nat) : FirstStep block (Spot.position i) := .inl (by simp [Spot.position])

lemma fieldsOf (h : Placed block s) (names : List String) : ∀ m ∈ s.fieldsOf names, Placed block m := by
  intro m hm
  simp only [Spot.fieldsOf,mem_filterMap,Option.map_eq_some_iff] at hm
  obtain ⟨n,-,v,hv,rfl⟩ := hm
  refine h.down (fun hs => .inr ⟨n,?_,rfl⟩) v
  rcases h.value hs with hvl | ⟨xs,hvl⟩
  · simpa [hvl,Value.get?,has,get?] using Option.isSome_of_mem hv
  · simp [hvl,Value.get?] at hv

lemma indexOf (h : Placed block s) (i : Int) : Yields (fun ms => ∀ m ∈ ms, Placed block m) (s.indexOf i) := by
  unfold Spot.indexOf
  split
  · exact .of_ok (by simp)
  refine (Yields.any _).bind fun size _ => ?_
  split
  · refine (Yields.any _).bind fun v _ => .of_ok ?_
    simpa using h.down (fun _ => .inl (by simp)) v
  · exact .of_ok (by simp)

lemma sliceOf (h : Placed block s) (start stop step : Option Int) :
    Yields (fun ms => ∀ m ∈ ms, Placed block m) (s.sliceOf start stop step) := by
  have hs : ∀ s : Spot, Placed block s → Yields (fun ms => ∀ m ∈ ms, Placed block m) (do
      let size ← s.value.size
      (← positions size start stop step).mapM fun i => do
        return s.down (Spot.position i) (← s.value.index (Int.ofNat i))) := by
    intro s h
    refine (Yields.any _).bind fun size _ => (Yields.any _).bind fun positions _ => .mapM fun i _ => ?_
    exact (Yields.any _).bind fun v _ => .of_ok (h.down (fun _ => position block i) v)
  unfold Spot.sliceOf
  split
  · exact .of_ok (by simp)
  · split
    · exact hs _ (h.asList _)
    · exact hs _ h

lemma parts (h : Placed block s) {step : String} {v : Value} (hm : (step,v) ∈ s.parts) (hs : s.steps = []) :
    FirstStep block step := by
  rcases h.value hs with hv | ⟨xs,hv⟩
  · simp only [Spot.parts,hv,Value.entries,map_map,mem_map] at hm
    obtain ⟨f,hf,heq⟩ := hm
    obtain ⟨hst,-⟩ := Prod.mk.inj heq
    exact .inr ⟨f.1,has_of_mem hf,hst.symm⟩
  · simp only [Spot.parts,hv,mem_map] at hm
    obtain ⟨p,-,heq⟩ := hm
    obtain ⟨hst,-⟩ := Prod.mk.inj heq
    exact hst ▸ position block p.2

lemma descend {query : Spot → Result (List Spot)}
    (hq : ∀ s, Placed block s → Yields (fun ms => ∀ m ∈ ms, Placed block m) (query s)) (n : Nat) {s : Spot}
    (h : Placed block s) : Yields (fun ms => ∀ m ∈ ms, Placed block m) (descend query n s) := by
  induction n generalizing s with
  | zero => exact .of_error _
  | succ n ih =>
    rw [Spot.descend]
    refine (hq s h).bind fun here hh => ?_
    refine (Yields.mapM fun p hp => ih (h.down (h.parts hp) p.2)).bind fun deeper hd => .of_ok ?_
    exact forall_mem_append.2 ⟨hh,forall_mem_flatten.2 hd⟩

lemma find : (p : Path) → ∀ {s : Spot}, Placed block s → Yields (fun ms => ∀ m ∈ ms, Placed block m) (p.find s)
  | .root,s,h => .of_ok (by simpa using h.atTop)
  | .this,s,h => .of_ok (by simpa using h)
  | .parent,s,h => .of_ok h.up
  | .fields names,s,h => .of_ok (h.fieldsOf names)
  | .index i,s,h => h.indexOf i
  | .slice start stop step,s,h => h.sliceOf start stop step
  | .child l r,s,h => by
    rw [Path.find]
    refine (find l h).bind fun ls hls => (Yields.mapM fun m hm => find r (hls m hm)).bind fun mss hmss => .of_ok ?_
    exact forall_mem_flatten.2 hmss
  | .beneath l r,s,h => by
    rw [Path.find]
    refine (find l h).bind fun ls hls => ?_
    refine (Yields.mapM fun m hm => descend (fun s hs => find r hs) _ (hls m hm)).bind fun mss hmss => .of_ok ?_
    exact forall_mem_flatten.2 hmss
  | .either l r,s,h => by
    rw [Path.find]
    refine (find l h).bind fun ls hls => (find r h).bind fun rs hrs => .of_ok ?_
    exact forall_mem_append.2 ⟨hls,hrs⟩
  | .both _ _,s,_ => by
    rw [Path.find]
    exact .of_error _
  | .having l r,s,h => by
    rw [Path.find]
    exact (find l h).bind fun ls hls ms hms m hm => hls m (Yields.filterM _ ls ms hms m hm)
  | .filter tests,s,h => by
    rw [Path.find]
    have hp :
        Placed block (if s.value.isDict then {s with value := .list (s.value.entries.map Prod.snd)} else s) := by
      split
      · exact h.asList _
      · exact h
    dsimp only
    generalize (if s.value.isDict then {s with value := .list (s.value.entries.map Prod.snd)} else s) = s at hp ⊢
    split
    · refine (Yields.any _).bind fun kept _ => .of_ok fun m hm => ?_
      obtain ⟨p,-,rfl⟩ := mem_map.1 hm
      exact hp.down (fun _ => position block p.2) p.1
    · exact .of_ok (by simp)

end Placed

/-- A name without the signs that paths are written with. -/
def isPlain (name : String) : Bool := name.toList.all fun c => !"$'.[".toList.contains c

lemma not_mem_of_isPlain {name : String} (h : isPlain name) {c : Char} (hc : c ∈ "$'.[".toList) :
    c ∉ name.toList := by
  intro hm
  have hn := all_eq_true.1 h c hm
  rw [contains_iff_mem.2 hc] at hn
  cases hn

lemma Placed.has_of_isPlain {s : Spot} (h : Placed block s) (hp : isPlain s.path) : has block s.path := by
  match hs : s.steps.reverse with
  | [] =>
    have hpt : s.path = "$" := by simp [path,reverse_eq_nil_iff.1 hs]
    rw [hpt] at hp
    exact absurd hp (by decide)
  | [step] =>
    obtain hst : s.steps = [step] := by simpa using congrArg reverse hs
    have hpt : s.path = step := by simp [path,hst,Text.join]
    rcases h.first step (by simp [hst]) with hb | ⟨n,hn,hnm⟩
    · exact absurd (hpt ▸ hb) (not_mem_of_isPlain hp (by decide))
    · unfold stepName at hnm
      split at hnm
      · refine absurd ?_ (not_mem_of_isPlain hp (show '\'' ∈ "$'.[".toList by decide))
        simp [hpt,hnm]
      · rwa [hpt,hnm]
  | x::y :: steps =>
    have hne : s.steps ≠ [] := by
      intro hnl
      simp [hnl] at hs
    refine absurd ?_ (not_mem_of_isPlain hp (show '.' ∈ "$'.[".toList by decide))
    simp [path,hne,hs,Text.join,String.toList_intercalate,intercalate]

def Spot.bare (s : Spot) : Spot := {s with above := []}

def Path.found (p : Path) (block : Fields) : Result (List Spot) := (p.select (.dict block)).map (·.map bare)

lemma bare_fieldsOf (s : Spot) (names : List String) :
    (s.bare.fieldsOf names).map bare = (s.fieldsOf names).map bare := by
  simp only [fieldsOf,bare,map_filterMap,Option.map_map]
  rfl

lemma found_child_fields (p : Path) (names : List String) (block : Fields) : (child p (.fields names)).found block =
      (p.found block).map fun ss => ss.flatMap fun s => (s.fieldsOf names).map bare := by
  simp only [found,select,find]
  cases p.find {value := .dict block} with
  | error e => rfl
  | ok ls =>
    have hm : ls.mapM (fun m => (.ok (m.fieldsOf names) : Result (List Spot))) = .ok (ls.map (·.fieldsOf names)) :=
      mapM_pure
    simp only [bind,Except.bind,hm,pure,Except.pure,Except.map,map_flatten,map_map,flatMap_map,bare_fieldsOf]
    rfl

def fieldPath (first : String) (names : List String) : Path :=
  names.foldl (fun p n => .child p (.fields [n])) (.child .root (.fields [first]))

lemma found_fieldPath {first : String} (hf : first ≠ "*") (names : List String) {block' : Fields}
    (h : block.lookup first = block'.lookup first) :
    (fieldPath first names).found block = (fieldPath first names).found block' := by
  have hfl : ∀ p : Path, p.found block = p.found block' →
      (names.foldl (fun p n => .child p (.fields [n])) p).found block =
        (names.foldl (fun p n => .child p (.fields [n])) p).found block' := by
    induction names with
    | nil => exact fun p hp => hp
    | cons n names ih => exact fun p hp => ih _ (by rw [found_child_fields,found_child_fields,hp])
  refine hfl _ ?_
  have hr : ∀ b : Fields, root.found b = .ok [{value := .dict b}] := fun _ => rfl
  have hfd : ∀ b : Fields, (fieldsOf {value := .dict b} [first]).map bare =
      ((b.lookup first).map fun v => (⟨v,[stepName first],[]⟩ : Spot)).toList := by
    intro b
    have hn : [first].contains "*" = false := by simpa using Ne.symm hf
    simp only [fieldsOf,hn,Bool.false_eq_true,if_false,filterMap_cons,filterMap_nil,Value.get?]
    cases b.lookup first <;> rfl
  rw [found_child_fields,found_child_fields,hr,hr]
  simp only [Except.map,flatMap_cons,flatMap_nil,hfd,h]

end InfraAudit.Json
