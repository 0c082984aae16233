import InfraAudit.Report.Document
import Mathlib

/-!
Results in the interchange format. A result is made of its record, but for the place of its rule and for its level: a record
that is not failed and has no severity takes the level of the record before it.
-/

namespace InfraAudit.Sarif

open List

variable {log : Log}

def shown (rep : Report) : List Record := (rep.failed ++ rep.skipped).filter (isShown rep.framework)

/-- The level that a record has by itself. -/
def ownLevel? (r : Record) : Option Level :=
  match r.severity with
  | some s => some (.ofSeverity s)
  | none => if r.verdict == .failed then some .error else none

/-- The level that records leave to the one behind them. -/
def carried (rs : List Record) : Level := (rs.filterMap ownLevel?).getLastD .warning

def Entry.of (r : Record) (ruleIndex : Nat) (level : Level) : Entry where
  ruleId := r.checkId
  ruleIndex
  level
  attachments := r.details
  message := orElse r.description r.checkName
  uri := Text.stripLeft (· == '/') r.file
  lines := r.lines.fromOne
  suppression := suppressionOf r

lemma levelOf_eq (r : Record) (level : Level) : levelOf r level = (ownLevel? r).getD level := by
  rw [levelOf,ownLevel?]
  cases r.severity with
  | some s => rfl
  | none => cases r.verdict == .failed <;> rfl

namespace Log

/-- Each rule stands once, and each result points at its own. -/
structure Indexed (log : Log) : Prop where
  distinct : (log.rules.map Rule.id).Nodup
  pointed : ∀ e ∈ log.results, (log.rules[e.ruleIndex]?).map Rule.id = some e.ruleId

lemma rules_add_suffix (log : Log) (r : Record) : ∃ new, (log.add r).rules = log.rules ++ new := by
  rw [add]
  dsimp only
  split
  · exact ⟨[],by simp⟩
  · exact ⟨_,rfl⟩

lemma results_add (log : Log) (r : Record) : (log.add r).results = log.results ++
      [.of r ((log.add r).rules.findIdx (·.id == r.checkId)) (levelOf r log.level)] := rfl

lemma rule_of_add (log : Log) (r : Record) : ∃ rule ∈ (log.add r).rules, rule.id = r.checkId := by
  rw [add]
  dsimp only
  split
  · next h => simpa using h
  · exact ⟨Rule.of r,by simp,rfl⟩

lemma Indexed.add (h : log.Indexed) (r : Record) : (log.add r).Indexed := by
  obtain ⟨new,hn⟩ := rules_add_suffix log r
  constructor
  · rw [Log.add]
    dsimp only
    split
    · exact h.distinct
    · next hf =>
      rw [map_append,map_singleton,← concat_eq_append]
      refine h.distinct.concat ?_
      simpa [Rule.of] using hf
  · intro e he
    rw [results_add,mem_append,mem_singleton] at he
    rcases he with he | rfl
    · -- Rules only come behind, so an earlier result still finds its own.
      have hold := h.pointed e he
      rw [Option.map_eq_some_iff] at hold ⊢
      obtain ⟨rule,hr,hid⟩ := hold
      refine ⟨rule,?_,hid⟩
      rw [hn,List.getElem?_append_left (List.getElem?_eq_some_iff.1 hr).1,hr]
    · obtain ⟨rule,hm,hid⟩ := rule_of_add log r
      have hlt := findIdx_lt_length_of_exists (p := (·.id == r.checkId)) ⟨rule,hm,by simpa using hid⟩
      rw [Entry.of,List.getElem?_eq_getElem hlt,Option.map_some]
      exact congrArg some (eq_of_beq (findIdx_getElem (w := hlt)))

lemma indexed_ofRecords (rs : List Record) : (ofRecords rs).Indexed :=
  foldlRecOn (motive := Indexed) _ _ ⟨nodup_nil,by simp⟩ fun _ h r _ => h.add r

lemma level_ofRecords (rs : List Record) : (ofRecords rs).level = carried rs := by
  induction rs using reverseRecOn with
  | nil => rfl
  | append_singleton rs r ih =>
    rw [ofRecords,foldl_concat,carried,filterMap_append]
    show levelOf r (ofRecords rs).level = _
    rw [levelOf_eq,ih]
    cases h : ownLevel? r <;> simp [h,carried]

lemma results_prefix (rs : List Record) (log : Log) : log.results <+: (rs.foldl add log).results := by
  induction rs generalizing log with
  | nil => exact prefix_rfl
  | cons r rs ih =>
    have hs : log.results <+: (log.add r).results := prefix_append _ _
    exact hs.trans (ih _)

lemma length_results (rs : List Record) : (ofRecords rs).results.length = rs.length := by
  induction rs using reverseRecOn with
  | nil => rfl
  | append_singleton rs r ih =>
    rw [ofRecords,foldl_concat,results_add,length_append,length_append,← ofRecords,ih]
    rfl

lemma exists_result (before : List Record) (r : Record) (after : List Record) :
    ∃ i, (ofRecords (before ++ r :: after)).results[before.length]? =
      some (.of r i ((ownLevel? r).getD (carried before))) := by
  rw [ofRecords,foldl_append,foldl_cons,← ofRecords]
  obtain ⟨later,hl⟩ := results_prefix after ((ofRecords before).add r)
  refine ⟨((ofRecords before).add r).rules.findIdx (·.id == r.checkId),?_⟩
  rw [← hl,results_add,levelOf_eq,level_ofRecords,← length_results before,append_assoc,
    getElem?_append_right (Nat.le_refl _),Nat.sub_self]
  rfl

end Log

/-- Rules stand once, and results point at their own. The results of a record in two reports, such as its own and one where
it is alone in its list, are the same but for the place of the rule just if the record has a level by itself or the records
before it leave the same level in both. -/
theorem sameResult_iff (rep : Report) : ((logOf rep).rules.map Rule.id).Nodup ∧
      (∀ e ∈ (logOf rep).results, ((logOf rep).rules[e.ruleIndex]?).map Rule.id = some e.ruleId) ∧
      (logOf rep).results.length = (shown rep).length ∧
      ∀ (rep' : Report) r before after before' after', shown rep = before ++ r :: after → shown rep' = before' ++ r :: after' →
        ∃ e e', (logOf rep).results[before.length]? = some e ∧ (logOf rep').results[before'.length]? = some e' ∧
          ({e with ruleIndex := e'.ruleIndex} = e' ↔ (ownLevel? r).isSome = true ∨ carried before = carried before') := by
  have hindexed := Log.indexed_ofRecords (shown rep)
  refine ⟨hindexed.distinct,hindexed.pointed,Log.length_results _,?_⟩
  intro rep' r before after before' after' hrep hrep'
  obtain ⟨i,he⟩ := Log.exists_result before r after
  obtain ⟨i',he'⟩ := Log.exists_result before' r after'
  rw [← hrep] at he
  rw [← hrep'] at he'
  refine ⟨_,_,he,he',?_⟩
  cases h : ownLevel? r with
  | some level => simp [Entry.of]
  | none => simp [Entry.of]

def note (id : String) (severity : Option Severity) : Record where
  checkId := id
  checkName := ""
  verdict := .skipped
  file := "/main.tf"
  absoluteFile := "/main.tf"
  lines := ⟨1,1⟩
  resource := some "aws_s3_bucket.b"
  severity

/-- The low severity of one skipped record passes over to the next. -/
theorem sameResult_iff_afterLow :
    ∃ e e', (logOf ⟨"terraform",[],[],[note "A" (some .low),note "B" none],[],[],[]⟩).results[1]? = some e ∧
      (logOf ⟨"terraform",[],[],[note "B" none],[],[],[]⟩).results[0]? = some e' ∧ {e with ruleIndex := e'.ruleIndex} ≠ e' := by
  obtain ⟨e,e',he,he',hiff⟩ := (sameResult_iff ⟨"terraform",[],[],[note "A" (some .low),note "B" none],[],[],[]⟩).2.2.2
    ⟨"terraform",[],[],[note "B" none],[],[],[]⟩ (note "B" none) [note "A" (some .low)] [] [] [] rfl rfl
  exact ⟨e,e',he,he',mt hiff.1 (by decide)⟩

end InfraAudit.Sarif
