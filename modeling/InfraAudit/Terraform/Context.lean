import InfraAudit.Report
import InfraAudit.Terraform.Project
import InfraAudit.Terraform.Rules

namespace InfraAudit.Terraform

structure BlockContext where
  lines : LineRange
  code : List CodeLine
  skips : List Suppression := []
  deriving Inhabited

structure BlockKey where
  kind : RuleKind
  path : List String
  deriving DecidableEq, Repr

namespace RuleKind

def name : RuleKind → String
  | .resource => "resource"
  | .data => "data"
  | .provider => "provider"
  | .module => "module"

def all : List RuleKind := [.resource,.data,.provider,.module]

def ofName? (s : String) : Option RuleKind := all.find? (·.name == s)

def locate (kind : RuleKind) (block : Value) : Result (List String × Value) := do
  let e ← Entity.ofValue kind block
  match kind with
  | .module => return (["module",e.name],e.conf)
  | .provider =>
    let alias_ ← (← e.conf.getOr "alias" (.ofStrings ["default"])).first
    return ([e.type,← alias_.needText],e.conf)
  | _ => return ([e.type,e.name],e.conf)

end RuleKind

abbrev FileContext := List (BlockKey × BlockContext)

abbrev Contexts := List (String × FileContext)

abbrev BlockTable := List (String × List (RuleKind × Value))

def BlockTable.keyOf (b : Graph.Block) : String :=
  if b.dependency.isEmpty then b.path else ModulePath.key ⟨b.path,b.dependency,b.dependencyNumber⟩

def BlockTable.ofGraph (ws : Workspace) (g : Graph) : BlockTable :=
  g.vertices.toList.foldl (fun t b =>
    if b.kind == "tfvar" || !ws.isFile b.path then t
    else upsert (keyOf b) [] (· ++ ((RuleKind.ofName? b.kind).map fun k => (k,b.config)).toList) t) []

namespace FileContext

def skipsWithin (comments : List (Int × Suppression)) (r : LineRange) : List Suppression :=
  (comments.filter fun (n,_) => r.first < n && n < r.last).map Prod.snd

def startMark : String := "__start_line__"

def stopMark : String := "__end_line__"

def lineNumber (conf : Value) (mark : String) : Result Int := do (← conf.field mark).needInt

def contextOf (lines : List CodeLine) (comments : List (Int × Suppression)) (conf : Value) : Result BlockContext := do
  let r : LineRange := ⟨← lineNumber conf startMark,← lineNumber conf stopMark⟩
  return {
    lines := r
    code := Text.sliceList lines (some (r.first - 1)) (some r.last)
    skips := skipsWithin comments r }

def ofBlocks (f : SourceFile) (blocks : List (RuleKind × Value)) : Result FileContext := do
  let lines := f.lines
  let comments := SkipComment.ofLines lines
  blocks.foldlM (fun (acc : FileContext) (kind,block) => do
    let (path,conf) ← kind.locate block
    return Loader.insertPair ⟨kind,path⟩ (← contextOf lines comments conf) acc) []

end FileContext

namespace Contexts

def ofTable (ws : Workspace) (t : BlockTable) : Result Contexts :=
  t.mapM fun (key,blocks) => do
    let f := (ws.file? (ModulePath.stripCaller key).1).getD {text := ""}
    return (key,← FileContext.ofBlocks f blocks)

variable (cs : Contexts)

def block? (key : String) (k : BlockKey) : Option BlockContext := do (← cs.lookup key).lookup k

def ofFile? (file : String) : Option FileContext :=
  match (cs.lookup file).filter (!·.isEmpty) with
  | some c => some c
  | none => (cs.find? fun (k,_) => Text.startsWith k file).map Prod.snd

def pushSkips (file : String) (skips : List Suppression) : Contexts :=
  if skips.isEmpty then cs
  else cs.map fun (key,c) =>
    match (ModulePath.stripCaller key).2 with
    | some caller =>
      if Text.contains caller file then (key,c.map fun (k,x) => (k,{x with skips := x.skips ++ skips}))
      else (key,c)
    | none => (key,c)

end Contexts

structure Located where
  name : String
  absoluteFile : String
  file : String
  lines : LineRange
  code : List CodeLine
  skips : List Suppression := []
  address : Option String := none
  crumbs : Fields := []

def Located.tagsOf (block : Fields) : Value := (block.lookup "tags").getD (.dict [])

def Located.linkedBlock (l : Located) (block : Fields) : LinkedBlock :=
  { code := l.code, file := l.file, absoluteFile := l.absoluteFile, lines := l.lines, resource := l.name
    tags := tagsOf block, address := l.address }

def Located.record (l : Located) (block : Fields) (linked : Option LinkedBlock) (j : Policy.Judgement)
    (verdict : Verdict) : Record :=
  let skip := l.skips.find? (·.id == j.policy.id)
  ({ checkId := j.policy.id
     checkName := j.policy.name
     verdict := if skip.isSome then .skipped else verdict
     keys := j.keys.map .str
     comment := skip.map (·.comment)
     entity := (block.lookup "config_").getD .null
     code := l.code
     file := l.file
     absoluteFile := l.absoluteFile
     lines := l.lines
     resource := l.name
     tags := tagsOf block
     address := l.address
     linked := (linked.map LinkedBlock.toValue).getD .null } : Record).withBreadcrumbs l.crumbs

def policyRecords (graph : Graph) (sel : Selection) (locate : Fields → Result (Option Located)) :
    Result (List Record) := do
  let (judged,net) := Policy.applyAll (policies.filter fun o => sel.runsId o.id) (.ofGraph graph)
  let one (j : Policy.Judgement) (row : Verdict × Nat) : Result (Option Record) := do
    let (verdict,i) := row
    let some l ← locate (net.attributes i) | return none
    let linked ← match (net.vertices.getD i default).linked with
      | none => pure none
      | some k => pure ((← locate (net.attributes k)).map fun m => m.linkedBlock (net.attributes k))
    return some (l.record (net.attributes i) linked j verdict)
  let records ← judged.mapM fun j => j.verdicts.mapM (one j)
  return records.flatten.filterMap id

end InfraAudit.Terraform
