import InfraAudit.Report

namespace InfraAudit.Dockerfile

open Text

structure Instruction where
  name : String
  value : String
  content : String
  first : Int
  last : Int
  deriving Inhabited

def Instruction.ofValue (v : Value) : Result Instruction := do
  let text (k : String) : Result String := do (← v.field k).needText
  let number (k : String) : Result Int := do (← v.field k).needInt
  return { name := ← text "instruction", value := ← text "value", content := ← text "content"
           first := ← number "startline", last := ← number "endline" }

structure Judgement where
  verdict : Verdict
  about : List Instruction := []

/-- For the entity `*` a rule is given all instructions, otherwise those of one name. -/
structure Rule where
  id : String
  name : String
  entity : String
  scan : List Instruction → Result Judgement

def fine : Judgement := {verdict := .passed}

def noneIs (bad : Instruction → Bool) (is : List Instruction) : Result Judgement :=
  .ok (match is.find? bad with
    | some i => {verdict := .failed, about := [i]}
    | none => fine)

variable (is : List Instruction)

def notUsed : Result Judgement := noneIs (fun _ => true) is

def isUsed (name : String) (is : List Instruction) : Result Judgement :=
  .ok (match is.find? (·.name == name) with
    | some i => {verdict := .passed, about := [i]}
    | none => {verdict := .failed})

def stageName? (i : Instruction) : Result (Option String) :=
  if contains i.value " as " then ((words i.value)[2]?).elim (.error .outOfRange) (.ok ∘ some)
  else .ok none

def stageNamesDiffer : Result Judgement := do
  let names := (← is.mapM stageName?).filterMap id
  if names.length == (Check.distinct names).length then return fine
  return {verdict := .failed, about := is.take 1}

def stagePattern := Pattern.of "(\\S+)\\s+as\\s+(\\S+)" {anyCase := true}

def unversioned? (stages : List String) : List Instruction → Option Instruction
  | [] => none
  | i::rest =>
    let (base,stages) := match stagePattern.matchStart? i.value with
      | some m => ((m.group? 1).getD "",((m.group? 2).getD "") :: stages)
      | none => (i.value,stages)
    if !contains base ":" && !stages.contains base && base != "scratch" then some i
    else if endsWith base ":latest" then some i
    else unversioned? stages rest

def baseVersioned : Result Judgement :=
  .ok (match unversioned? [] is with
    | some i => {verdict := .failed, about := [i]}
    | none => fine)

def lastUser : Result Judgement :=
  match is.getLast? with
  | some i => .ok {verdict := .passIf (i.value != "root"), about := [i]}
  | none => .error .outOfRange

def mentions (words : List String) (i : Instruction) : Bool := words.any (contains i.content)

def updateWords := ["update","--update"]

def installWords := ["install","source-install","reinstall","groupinstall","localinstall","add"]

def updatesInstall : Result Judgement :=
  let updates := is.filter (mentions updateWords)
  .ok (if updates.length ≤ (is.filter (mentions installWords)).length then fine
    else {verdict := .failed, about := updates})

def absolutePath : Pattern := Pattern.of "(^/[A-z0-9-_+]*)|(^[A-z0-9-_+]:\\\\.*)|(^\\$[\x7b\x7dA-z0-9-_+].*)"

def absoluteDirs : Result Judgement :=
  let bad := is.filter fun i => !absolutePath.matches? i.value
  .ok (if bad.isEmpty then fine else {verdict := .failed, about := bad})

def rules : List Rule := [
  ⟨"CKV_DOCKER_4","Ensure that COPY is used instead of ADD in Dockerfiles","ADD",notUsed⟩,
  ⟨"CKV_DOCKER_11","Ensure From Alias are unique for multistage builds.","FROM",stageNamesDiffer⟩,
  ⟨"CKV_DOCKER_1","Ensure port 22 is not exposed","EXPOSE",noneIs fun i => (split i.value " ").contains "22"⟩,
  ⟨"CKV_DOCKER_2","Ensure that HEALTHCHECK instructions have been added to container images","*",isUsed
    "HEALTHCHECK"⟩,
  ⟨"CKV_DOCKER_6","Ensure that LABEL maintainer is used instead of MAINTAINER (deprecated)","MAINTAINER",notUsed⟩,
  ⟨"CKV_DOCKER_7","Ensure the base image uses a non latest version tag","FROM",baseVersioned⟩,
  ⟨"CKV_DOCKER_8","Ensure the last USER is not root","USER",lastUser⟩,
  ⟨"CKV_DOCKER_9","Ensure that APT isn't used","RUN",noneIs fun i => contains i.content " apt "⟩,
  ⟨"CKV_DOCKER_5","Ensure update instructions are not use alone in the Dockerfile","RUN",updatesInstall⟩,
  ⟨"CKV_DOCKER_3","Ensure that a user for the container has been created","*",isUsed "USER"⟩,
  ⟨"CKV_DOCKER_10","Ensure that WORKDIR values are absolute paths","WORKDIR",absoluteDirs⟩]

def fileName := Pattern.of "^(?:.+\\.)?[Dd]ockerfile(?:\\..+)?\\Z"

def isFileName (name : String) : Bool := fileName.matches? name

structure Source where
  file : String
  absoluteFile : String
  instructions : List Instruction
  lines : List String

def read (ws : Workspace) (shown : String → Result String) (path : String) : Result (Option Source) := do
  let file ← ws.need path
  let some tree := file.tree | return none
  let read : Result (List Instruction) := do (← tree.elems).mapM Instruction.ofValue
  match read with
  | .ok instructions =>
    return some { file := ← shown path, absoluteFile := path, instructions,
                  lines := newlineTerminated (unifyLineEnds file.text) }
  | .error .wrongKind => return none
  | .error f => throw f

variable (s : Source)

def suppressions : List Suppression :=
  (s.instructions.filter (·.name == "COMMENT")).filterMap fun i => SkipComment.read? i.value

structure Finding where
  rule : Rule
  judgement : Judgement
  comment : Option String := none

/-- Once a rule is suppressed, those that follow are suppressed with it. -/
def judgeAll (sel : Selection) (skips : List Suppression) (is : List Instruction) :
    Option Suppression → List Rule → Result (List Finding)
  | _,[] => .ok []
  | skip,r :: rest => do
    let skip := (skips.find? (·.id == r.id)).or skip
    let found : List Finding ← if !sel.runsId r.id then pure [] else match skip with
      | some s => pure [{rule := r, judgement := {verdict := .skipped}, comment := some s.comment}]
      | none => (r.scan is).map fun j => [{rule := r, judgement := j}]
    return found ++ (← judgeAll sel skips is skip rest)

def entities : List String := Check.distinct ((rules.map (·.entity)).filter (· != "*"))

def findings (sel : Selection) (s : Source) : Result (List Finding) := do
  if s.instructions.isEmpty then return []
  let skips := suppressions s
  let parts ← entities.mapM fun e => do
    let is := s.instructions.filter (·.name == e)
    if is.isEmpty then return [] else judgeAll sel skips is none (rules.filter (·.entity == e))
  let whole ← (rules.filter (·.entity == "*")).mapM fun r => judgeAll sel skips s.instructions none [r]
  return parts.flatten ++ whole.flatten

def code (first last : Int) : Result (List CodeLine) :=
  (List.range (last+1 - first).toNat).mapM fun (i : Nat) => do
    let line := first+i
    let some text := s.lines[line.toNat]? | throw .outOfRange
    return (line+1,text)

def record (f : Finding) (first last : Int) (instruction : String) : Result Record := do
  return {
    checkId := f.rule.id
    checkName := f.rule.name
    verdict := f.judgement.verdict
    comment := f.comment
    code := ← code s first last
    file := s.file
    absoluteFile := s.absoluteFile
    lines := ⟨first+1,last+1⟩
    resource := some (s.file ++ "." ++ instruction) }

def records (f : Finding) : Result (List Record) :=
  match f.judgement.about with
  | [] => do return [← record s f 0 (s.lines.length - 1) ""]
  | is => is.mapM fun i => record s f i.first i.last i.name

def judge (sel : Selection) (rep : Report) (s : Source) : Result Report := do
  let rep := rep.addResource s.absoluteFile
  (← findings sel s).foldlM (fun rep f => do return rep.addAll (← records s f)) rep

def report (ws : Workspace) (sel : Selection) (shown : String → Result String) (files : List String) :
    Result Report := do
  let sources ← (files.filter fun p => isFileName (PathName.basename p)).mapM (read ws shown)
  (sources.filterMap id).foldlM (judge sel) {framework := "dockerfile"}

def scanFiles (ws : Workspace) (sel : Selection) (files : List String) : Result Report := report ws sel .ok files

def scanDirectory (ws : Workspace) (sel : Selection) : Result Report := do
  report ws sel ws.shown (← ws.sources [] sel.excludedPaths)

end InfraAudit.Dockerfile
