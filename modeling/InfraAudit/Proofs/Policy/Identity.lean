import InfraAudit.Proofs.Policy.Interference

namespace InfraAudit.Policy

open List Value

variable {g : Net} {v w : Value}

section

variable {α β σ : Type}

lemma exec_bind_eq_ok {s t : σ} :
    exec (x >>= f) s = (.ok b,t) ↔ ∃ a s', exec x s = (.ok a,s') ∧ exec (f a) s' = (.ok b,t) := by
  rw [exec_bind]
  generalize exec x s = p
  obtain ⟨answer,s'⟩ := p
  cases answer with
  | error e => simp
  | ok a => simp

lemma exec_get_bind {f : σ → ExceptT Fault (StateM σ) β} (s : σ) : exec (get >>= f) s = exec (f s) s := by
  rw [exec_bind,exec_get]

lemma exec_lift_bind_eq_ok {r : Result α} {s t : σ} {b : β} :
    exec (liftM r >>= f) s = (.ok b,t) ↔ ∃ a, r = .ok a ∧ exec (f a) s = (.ok b,t) := by
  simp [exec_bind_eq_ok,exec_lift]

lemma exec_ask_eq_ok {q : σ → Result α} {f : σ → α → ExceptT Fault (StateM σ) β} {s t : σ} {b : β} :
    exec (get >>= fun s => liftM (q s) >>= f s) s = (.ok b,t) ↔ ∃ a, q s = .ok a ∧ exec (f s a) s = (.ok b,t) := by
  rw [exec_get_bind,exec_lift_bind_eq_ok]

end

lemma text?_of_eq (h : eq v w) (hv : v.text? = some s) : w.text? = some s := by
  cases v <;> cases w <;> simp_all [eq,eqScalar,text?,int?]

lemma eq_of_text? (hv : v.text? = some s) (hw : w.text? = some s) : eq v w := by
  cases v <;> cases w <;> simp_all [eq,eqScalar,text?]

lemma elem_of_text? (hv : v.text? = some s) (hw : w.text? = some s) (hm : w ∈ vs) : v.elem vs :=
  any_eq_true.2 ⟨w,hm,eq_of_text? hv hw⟩

namespace Net

def text? (g : Net) (i : Nat) (key : String) : Option String := (g.get? i key).bind Value.text?

lemma text?_of_get (h : g.get i key = .ok v) : g.text? i key = v.text? := by
  cases hv : g.get? i key with
  | none => simp [get,hv] at h
  | some w =>
    obtain rfl : w = v := by simpa [get,hv] using h
    simp [text?,hv]

lemma lt_of_get (h : g.get i key = .ok v) : i ∈ g.nodes := by
  refine mem_range.2 (Nat.lt_of_not_le fun hle => ?_)
  simp [get,get?,attributes_of_size_le hle] at h

namespace Extends

lemma trans (hgh : g.Extends h) (hhk : h.Extends k) : g.Extends k := by
  refine ⟨hhk.size.trans hgh.size,hhk.edges.trans hgh.edges,fun i => ?_⟩
  obtain ⟨new,hn,ha⟩ := hgh.attributes i
  obtain ⟨more,hm,ha'⟩ := hhk.attributes i
  rw [hn] at hm ha'
  exact ⟨new ++ more,by rw [hm,append_assoc],ha.append ha'⟩

variable (he : g.Extends h)

include he

lemma nodes_eq : h.nodes = g.nodes := by rw [nodes,nodes,he.size]

lemma get?_eq (hp : Json.isPlain key) (i : Nat) : h.get? i key = g.get? i key := by
  obtain ⟨new,hnw,ha⟩ := he.attributes i
  have hn : new.lookup key = none := by
    rw [lookup_eq_none_iff]
    intro f hf
    rw [bne_iff_ne]
    rintro rfl
    simp [(ha f hf).2] at hp
  rw [get?,get?,hnw,lookup_append,hn,Option.or_none]

lemma own (hk : key ∈ ownKeys) (i : Nat) : h.get? i key = g.get? i key := by
  have hp : ∀ k ∈ ownKeys, Json.isPlain k := by decide
  exact he.get?_eq (hp key hk) i

lemma get_eq (hk : key ∈ ownKeys) (i : Nat) : h.get i key = g.get i key := by rw [get,get,he.own hk]

lemma ofTypes_eq (types : TypeNames) (nodes : List Nat) : h.ofTypes types nodes = g.ofTypes types nodes := by
  exact congrArg (filterM · nodes) (funext fun i => includes_congr (fun _ hk => he.own hk i) types)

lemma isAmong_eq (ht : g.ToldApart [linkKey]) (i : Nat) (vs : List Nat) : h.isAmong i vs = vs.contains i := by
  have ha : h.alike i = fun j => i == j := by
    funext j
    exact alike_eq (by simp) ht he.size (fun i k v _ hv => he.lookup hv) i j
  have han : vs.any (fun j => i == j) = vs.contains i := by
    rw [Bool.eq_iff_iff]
    simp
  rw [isAmong,ha,han,Bool.or_self]

end Extends

/-- Every block has an id and a file, and no other block has both of them. -/
structure Identified (g : Net) : Prop where
  texts : ∀ i ∈ g.nodes, ∀ key ∈ ["id_","file_path_"], ∃ s, g.text? i key = some s
  single : ∀ i ∈ g.nodes, ∀ j ∈ g.nodes, g.text? i "id_" = g.text? j "id_" →
    g.text? i "file_path_" = g.text? j "file_path_" → i = j

lemma Identified.toldApart (hg : g.Identified) : g.ToldApart [linkKey] := by
  intro i hi j hj hij
  have hi' : i ∈ g.nodes := mem_range.2 hi
  have hj' : j ∈ g.nodes := mem_range.2 hj
  have hd : ∃ key ∈ ["id_","file_path_"], g.text? i key ≠ g.text? j key := by
    by_contra hsm
    push Not at hsm
    exact hij (hg.single i hi' j hj' (hsm _ (by simp)) (hsm _ (by simp)))
  obtain ⟨key,hk,hne⟩ := hd
  obtain ⟨s,hs⟩ := hg.texts i hi' key hk
  obtain ⟨t,ht⟩ := hg.texts j hj' key hk
  obtain ⟨v,hv,hvs⟩ := Option.bind_eq_some_iff.1 hs
  obtain ⟨w,hw,hwt⟩ := Option.bind_eq_some_iff.1 ht
  refine ⟨key,v,w,?_,hv,hw,Bool.eq_false_iff.2 fun heq => hne ?_⟩
  · have hl : ∀ k ∈ ["id_","file_path_"], k ∉ [linkKey] := by decide
    exact hl key hk
  · rw [hs,ht,← hwt,text?_of_eq heq hvs]

end Net

namespace Run

variable {α : Type}

/-- Tests only add, and connections are only noted. -/
def Grows (x : Run α) : Prop := ∀ h : Net, h.Extends (exec x h).2

lemma Grows.after (hx : Grows x) (he : g.Extends h) (hr : exec x h = (r,k)) : g.Extends k := by
  have hs := hx h
  rw [hr] at hs
  exact he.trans hs

lemma grows_of_stable (hx : ∀ g : Net, Stable (fun h h' => h = h' ∧ g.Extends h) x) : Grows x :=
  fun h => (hx h h h ⟨rfl,.refl h⟩).2.2

lemma grows_unconnected : Grows (unconnected cs nodes) :=
  grows_of_stable fun g => (pairing_extends g).stable_unconnected (fun d _ => d.fitsAlone_extends g) nodes

lemma grows_connect : Grows (connect c nodes exclude) :=
  grows_of_stable fun g => (pairing_extends g).stable_connect c (fun d _ => d.fitsAlone_extends g) nodes exclude

lemma grows_connectAll : Grows (connectAll cs types late nodes acc) :=
  grows_of_stable fun g =>
    (pairing_extends g).stable_connectAll cs (fun d _ => d.fitsAlone_extends g) types late nodes acc

lemma grows_connectAny : Grows (connectAny cs nodes acc) :=
  grows_of_stable fun g => (pairing_extends g).stable_connectAny cs (fun d _ => d.fitsAlone_extends g) nodes acc

end Run

end InfraAudit.Policy
