import InfraAudit.Report
import InfraAudit.Yaml.Scalar

namespace InfraAudit.Document

open Template

inductive Shape where
  | whole
  | member
  | each
  deriving DecidableEq, Repr, Inhabited

structure Rule (π : Type) where
  id : String
  name : String
  entities : List String
  shape : Shape
  scan : Value → Result (Verdict × π)

structure Outcome (π : Type) where
  rule : Rule π
  verdict : Verdict
  place : Option π := none
  comment : Option String := none

def Outcome.record {π : Type} (o : Outcome π) (ws : Workspace) (path : String) (code : List CodeLine) (lines : LineRange)
    (resource : Result String) : Result Record :=
  return {
    checkId := o.rule.id
    checkName := o.rule.name
    verdict := o.verdict
    comment := o.comment
    code := Text.sliceList code (some (lines.first - 1)) (some (lines.last+1))
    file := ← ws.shown path
    absoluteFile := path
    lines := ⟨lines.first,lines.last+1⟩
    resource := some (← resource) }

abbrev Outcomes (π : Type) := List (String × Outcome π)

namespace Outcomes

variable {π : Type}

def insert (k : String) (o : Outcome π) : Outcomes π → Outcomes π
  | [] => [(k,o)]
  | (k',o')::r => if k' == k then (k,o) :: r else (k',o') :: insert k o r

end Outcomes

structure Scheme where
  key : String → String → String → Value → Result String
  select : String → Value → Value

namespace Rule

variable {π : Type}

def judge (r : Rule π) (skip : Option Suppression) (part : Value) : Result (Outcome π) :=
  match skip with
  | some s => .ok {rule := r, verdict := .skipped, comment := some s.comment}
  | none => do
    let (verdict,place) ← r.scan part
    return {rule := r, verdict, place := some place}

end Rule

structure Application (π : Type) where
  scheme : Scheme
  rule : Rule π
  skip : Option Suppression
  entity : String
  name : String

namespace Application

variable {π : Type}

variable (a : Application π)

def keep (name : String) (part : Value) (acc : Outcomes π) : Result (Outcome π × Outcomes π) := do
  let o ← a.rule.judge a.skip part
  let key ← a.scheme.key a.entity name a.rule.id part
  return (o,acc.insert key o)

/-- Judges what stands under the name in mappings, up to the first that fails. -/
def overItems (a : Application π) : List Value → Outcomes π → Result (Outcomes π)
  | [],acc => .ok acc
  | item::rest,acc => do
    if ← item.has a.name then
      let (o,acc) ← a.keep a.name (← item.field a.name) acc
      if o.verdict == .failed then return acc else a.overItems rest acc
    else a.overItems rest acc

def isLineKey (v : Value) : Bool := v == "__startline__" || v == "__endline__"

def overParts (document : Value) (acc : Outcomes π) : Result (Outcomes π) :=
  match a.scheme.select a.entity document with
  | .list xs => (xs.filter (!isLineKey ·)).foldlM (fun acc x => do return (← a.keep a.entity x acc).2) acc
  | v => (v.entries.filter (!isLineKey ·.1)).foldlM
      (fun acc (k,x) => do return (← a.keep k.display x acc).2) acc

def run (document : Value) (acc : Outcomes π) : Result (Outcomes π) :=
  match a.rule.shape with
  | .whole => do return (← a.keep a.name document acc).2
  | .member => do
    if ← document.has a.name then return (← a.keep a.name (← document.field a.name) acc).2 else return acc
  | .each => match document with
    | .list xs => a.overItems xs acc
    | document => if document.isDict then a.overParts document acc else return acc

end Application

namespace Rule

variable {π : Type}

variable (rs : List (Rule π))

def firstById : List (Rule π) := rs.foldl (fun acc r => if acc.any (·.id == r.id) then acc else acc ++ [r]) []

def naming (entity : String) : List (Rule π) := firstById (rs.filter (·.entities.contains entity))

def entitiesOf : List String := Check.distinct (rs.flatMap (·.entities))

/-- First rules for names, then those for patterns, reported under the name of the file. -/
def runAll (scheme : Scheme) (skip : Rule π → Result (Option Suppression)) (selected : Rule π → Bool) (file : String) (document : Value) : Result (Outcomes π) := do
  let entities := entitiesOf rs
  let plain := (entities.filter (!Check.isPattern ·)).map fun e => (e,e)
  let patterns := (entities.filter Check.isPattern).map fun e => (e,file)
  (plain ++ patterns).foldlM (fun acc (entity,name) =>
    (naming rs entity).foldlM (fun acc rule => do
      let skip ← skip rule
      if selected rule then ({scheme, rule, skip, entity, name} : Application π).run document acc
      else return acc) acc) []

end Rule

inductive Query where
  | here
  | field (name : String)
  | chain (first second : Query)
  | values (base each : Query)
  /-- A query asked of every item of a list; a list in it gives way to its items. -/
  | spread (base each : Query)
  | mapping (fields : List (String × Query))
  | listing (parts : List Query)

namespace Query

def flat (xs : List Value) : List Value :=
  xs.flatMap fun
    | .list ys => ys
    | v => [v]

def present (xs : List Value) : List Value := xs.filter fun v => !v.isNull

mutual

def eval : Query → Value → Value
  | .here,v => v
  | .field name,v => v.getD name
  | .chain a b,v => b.eval (a.eval v)
  | .values base each,v =>
    let held := base.eval v
    if held.isDict then .list (present ((held.entries.map Prod.snd).map each.eval)) else .null
  | .spread base each,v =>
    match base.eval v with
    | .list xs => .list (present ((flat xs).map each.eval))
    | _ => .null
  | .mapping fields,v => if v.isNull then .null else .dict (Fields.ofPairs (evalFields fields v))
  | .listing parts,v => if v.isNull then .null else .list (evalParts parts v)

def evalFields : List (String × Query) → Value → Fields
  | [],_ => []
  | (k,q)::r,v => (k,q.eval v) :: evalFields r v

def evalParts : List Query → Value → List Value
  | [],_ => []
  | q::r,v => q.eval v :: evalParts r v

end

def fields : List String → Query
  | [] => .here
  | [name] => .field name
  | name::rest => .chain (.field name) (fields rest)

end Query

def startLine : String := "__startline__"

def endLine : String := "__endline__"

structure Lined where
  path : String
  root : Value
  lines : List CodeLine

namespace Lined

def isUnreadable : Fault → Bool
  | .unreadableYaml | .unreadableToken => true
  | _ => false

def ofText (path text : String) : Result (Option Lined) :=
  let text := Text.unifyLineEnds text
  if !Text.endsWith path ".yaml" && !Text.endsWith path ".yml" then .ok none
  else match Yaml.readLined text with
    | .ok roots =>
      .ok ((roots.find? fun v => v.truthy && (v.isList || v.isDict)).map fun root =>
        {path, root, lines := CodeLine.ofText text})
    | .error f => if isUnreadable f then .ok none else .error f

def extent (part : Value) : Result (Option (Value × Value)) := do
  if ← part.has startLine then
    if ← part.has endLine then return some (← part.field startLine,← part.field endLine)
  match part with
  | .list xs =>
    let (first,last) ← xs.foldlM (fun (first,last) x => do
      if ← x.has startLine then
        if ← x.has endLine then
          let start ← x.field startLine
          let stop ← x.field endLine
          let first : Value := if first.falsy then start else first
          let last : Value := if last.falsy then stop else last
          let last : Value := if ← stop.gt last then stop else last
          let first : Value := if ← start.lt first then start else first
          return (first,last)
      return (first,last)) (Value.null,Value.null)
    return if first.truthy && last.truthy then some (first,last) else none
  | _ => return none

def key (entity name id : String) (part : Value) : Result String := do
  let lines := match ← extent part with
    | some (first,last) => "[" ++ first.display ++ ":" ++ last.display ++ "]"
    | none => ""
  return entity ++ "." ++ name ++ "." ++ id ++ lines

/-- The first and last line, zero for none. A list starts on the line before its first item. -/
def range (place : Value) : Result LineRange := do
  if place.falsy then return ⟨0,0⟩
  match place with
  | .list xs =>
    let first ← (← (← Value.nth xs 0).field startLine).needInt
    return ⟨first - 1,← (← (← Value.nth xs (-1)).field endLine).needInt⟩
  | .dict _ | .table _ => ofMapping place
  | _ => return ⟨0,0⟩
where
  ofMapping (v : Value) : Result LineRange := do
    let first ← v.field startLine
    let last ← v.field endLine
    return ⟨← first.needInt,← last.needInt⟩

def suppression (d : Lined) {π : Type} (r : Rule π) : Result (Option Suppression) := do
  let mine := (SkipComment.ofLines d.lines).filter (·.2.id == r.id)
  let inside ← mine.filterM fun (n,_) => do
    if ← (← d.root.field startLine).le (.int n) then Value.le (.int n) (← d.root.field endLine) else return false
  return (inside.head?).map Prod.snd

end Lined

structure Placed where
  path : String
  root : Value
  tree : Option Node := none
  lines : List CodeLine

def Placed.ofJson (path text : String) : Result (Option Placed) :=
  let text := Text.unifyLineEnds text
  match Template.readJson text true with
  | .ok n => .ok (some {path, root := n.value, tree := some n, lines := CodeLine.ofText text})
  | .error .unreadableDocument | .error (.unreadableTemplate _) => .ok none
  | .error f => .error f

def Placed.ofLined (d : Lined) : Placed := {path := d.path, root := d.root, lines := d.lines}

def Placed.isJson (d : Placed) : Bool := d.tree.isSome

def partAt? (n : Node) : Value.Trail → Option Node
  | [] => some n
  | k::ks => match n, k with
    | .dict _ _,.str s => (n.get? s).bind (partAt? · ks)
    | .list xs _,.int i => xs[i.toNat]?.bind (partAt? · ks)
    | _,_ => none

def mappingLines? : Node → Option LineRange
  | .dict _ span => some ⟨span.start.line,span.stop.line⟩
  | _ => none

def Placed.valueAt (d : Placed) (t : Value.Trail) : Value :=
  (d.root.valueAt t).toOption.getD .null

def Placed.suppression (d : Placed) {π : Type} (r : Rule π) : Option Suppression :=
  ((SkipComment.ofLines d.lines).map Prod.snd).find? (·.id == r.id)

end InfraAudit.Document
