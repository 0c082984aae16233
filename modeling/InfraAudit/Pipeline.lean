import InfraAudit.Document.Lined

namespace InfraAudit.Pipeline

open Text Text.Pattern

open Document (Lined Query Rule Outcome startLine endLine)

def netcat : Pattern := of ("(nc|netcat) (\\d\x7b1,3\x7d).(\\d\x7b1,3\x7d).(\\d\x7b1,3\x7d).(\\d\x7b1,3\x7d)")

def occurs (p : Pattern) (command : Value) : Result Bool := do return p.occursIn (← command.needText)

def anyOccurs (ps : List Pattern) (command : Value) : Result Bool := ps.anyM (occurs · command)

def sends (word : String) (commands : Value) : Result Bool := do
  if ← commands.has "curl" then
    return (← commands.splitOn "\n").any fun line => contains line "curl" && contains line word
  else return false

abbrev Answer := Result (Verdict × Value)

def refuse (bad : Value → Result Bool) (conf : Value) : Answer := do return (.passIf !(← bad conf),conf)

def isMark (key : Value) : Bool := key.isOneOf [startLine,endLine]

def imageWithLinesName : String := "\x7bimage: image, __startline__: __startline__, __endline__:__endline__\x7d"

structure Image where
  name : Value
  first : Value
  last : Value

def Image.insert (i : Image) (found : List Image) : Result (List Image) :=
  if !i.name.hashable then .error .wrongKind
  else if found.any fun j => j.name == i.name && j.first == i.first && j.last == i.last then .ok found
  else .ok (found ++ [i])

structure Kind where
  framework : String
  hidden : List String := []
  describes : String → String → Bool
  rules : List (Rule Value)
  queries : List (String × Query) := []
  resource : Lined → String → Result String := fun d key => .ok (d.path ++ "." ++ key)
  completion : Lined → Result (Int → Record → Result Record) := fun _ => .ok fun _ r => .ok r
  images : Option Lined → Result (List Image)

namespace Kind

variable (k : Kind) (ws : Workspace)

def scheme : Document.Scheme where
  key := Lined.key
  select entity document := ((k.queries.lookup entity).getD (.field entity)).eval document

def read (path : String) : Result (Option Lined) := do
  let file ← ws.need path
  if k.describes path (unifyLineEnds file.text) then Lined.ofText path file.text else return none

abbrev Loaded := Lined × (Int → Record → Result Record)

def load (path : String) : Result (Option Loaded) := do
  let some d ← k.read ws path | return none
  return some (d,← k.completion d)

def record (l : Loaded) (key : String) (o : Outcome Value) : Result Record := do
  let lines ← (o.place.map Lined.range).getD (pure ⟨0,0⟩)
  l.2 lines.last (← o.record ws l.1.path l.1.lines lines (k.resource l.1 key))

def judge (sel : Selection) (rep : Report) (l : Loaded) : Result Report := do
  let d := l.1
  let outcomes ← Rule.runAll k.rules k.scheme d.suppression (sel.runsId ·.id) d.path d.root
  outcomes.foldlM (fun rep (key,o) => do return rep.add (← k.record ws l key o)) rep

def scanFiles (sel : Selection) (files : List String) : Result Report := do
  let loaded ← files.mapM (k.load ws)
  (loaded.filterMap id).foldlM (k.judge ws sel) {framework := k.framework}

def scanDirectory (sel : Selection) : Result Report := do
  k.scanFiles ws sel (← ws.sources k.hidden sel.excludedPaths)

def imagesOf (path : String) : Result (Option (List Image)) := do
  let file ← ws.need path
  if k.describes path (unifyLineEnds file.text) then return some (← k.images (← k.read ws path))
  else return none

end Kind

namespace CircleCi

def stepsName : String := "jobs.*.steps[]"

def imagesName : String := "jobs.*.docker[]." ++ imageWithLinesName

def orbsName : String := "orbs.\x7borbs: @\x7d"

def imageWithLines : Query := .mapping [("image",.field "image"),(startLine,.field startLine),(endLine,.field endLine)]

def imagesQuery : Query := .spread (.values (.field "jobs") (.field "docker")) imageWithLines

def stepsQuery : String × Query := (stepsName,.spread (.values (.field "jobs") (.field "steps")) .here)

def queries : List (String × Query) := [
  stepsQuery,
  (imagesName,imagesQuery),
  (orbsName,.chain (.field "orbs") (.mapping [("orbs",.here)]))]

def command? (step : Value) : Result (Option Value) := do
  if !(← step.has "run") then return none
  let run ← step.getOr "run" ""
  return some (← if run.isDict then run.getOr "command" "" else pure run)

def onCommands (bad : Value → Result Bool) : Value → Answer := refuse fun step => do
  ((← command? step).map bad).getD (return false)

def foreignInputs : List Pattern := [
  "\\$*CIRCLE_PR_REPONAME*","\\$*CIRCLE_PR_USERNAME*","\\$*CIRCLE_PULL_REQUESTS*","\\$*CIRCLE_TAG*",
  "\\$*CIRCLE_BRANCH*"].map (of ·)

def hashedImage (conf : Value) : Answer :=
  let image := conf.getD "image"
  .ok (match image with
    | .str s => if s.isEmpty || contains s "@" then .passed else if contains s "latest" then .unknown else .failed
    | _ => .passIf image.falsy,conf)

def latestImage (conf : Value) : Answer :=
  match conf.getD "image" with
  | .str s => .ok (.passIf !(endsWith s ":latest"),conf)
  | _ => .ok (.passed,conf)

def orbsWithout (mark : String) : Value → Answer := refuse fun orbs => do
  return (← orbs.valuesOf).any fun
    | .str s => contains s mark
    | _ => false

def rules : List (Rule Value) := [
  ⟨"CKV_CIRCLECIPIPELINES_5","Suspicious use of netcat with IP address",[stepsName],.each,onCommands (occurs netcat)⟩,
  ⟨"CKV_CIRCLECIPIPELINES_6","Ensure run commands are not vulnerable to shell injection",
    [stepsName],.each,onCommands (anyOccurs foreignInputs)⟩,
  ⟨"CKV_CIRCLECIPIPELINES_7","Suspicious use of curl in run task",[stepsName],.each,onCommands (sends "POST")⟩,
  ⟨"CKV_CIRCLECIPIPELINES_2","Ensure the pipeline image version is referenced via hash not arbitrary tag.",
    [imagesName],.each,hashedImage⟩,
  ⟨"CKV_CIRCLECIPIPELINES_1","Ensure the pipeline image uses a non latest version tag",[imagesName],.each,latestImage⟩,
  ⟨"CKV_CIRCLECIPIPELINES_3","Ensure mutable development orbs are not used.",[orbsName],.each,orbsWithout "@dev"⟩,
  ⟨"CKV_CIRCLECIPIPELINES_4","Ensure unversioned volatile orbs are not used.",[orbsName],.each,orbsWithout "@volitile"⟩]

def gather (q : Query) (document : Value) (found : List Image) : Result (List Image) := do
  (← (q.eval document).elems).foldlM (fun found v => do
    let name ← v.get "image"
    if name.truthy then Image.insert ⟨name,← v.field startLine,← v.field endLine⟩ found
    else return found) found

def images (d : Option Lined) : Result (List Image) := do
  let some d := d | return []
  if d.root.isDict then gather imagesQuery d.root [] else return []

def kind : Kind :=
  { rules, queries, images
    framework := "circleci_pipelines"
    hidden := [".circleci"]
    describes := fun path _ => contains path "circleci" && (endsWith path "config.yml" || endsWith path "config.yaml") }

end CircleCi

namespace Bitbucket

open CircleCi (imageWithLines gather)

def rootName : String := "[\x7bimage:image,__startline__:__startline__,__endline__:__endline__\x7d]"

def defaultName : String := "pipelines.default[].step." ++ imageWithLinesName

def namedName : String := "pipelines.*.[*][][][].step." ++ imageWithLinesName

def stepImage : Query := .chain (.field "step") imageWithLines

def defaultQuery : Query := .spread (.fields ["pipelines","default"]) stepImage

def namedQuery : Query :=
  .spread (.spread (.spread (.values (.field "pipelines") (.listing [.values .here .here])) .here) .here) stepImage

def queries : List (String × Query) :=
  [(rootName,.listing [imageWithLines]),(defaultName,defaultQuery),(namedName,namedQuery)]

def latestImage (conf : Value) : Answer :=
  if (conf.getD "image").falsy then .ok (.silent,conf) else CircleCi.latestImage conf

def rules : List (Rule Value) := [
  ⟨"CKV_BITBUCKETPIPELINES_1","Ensure the pipeline image uses a non latest version tag",
    [rootName,defaultName,namedName],.each,latestImage⟩]

def images (d : Option Lined) : Result (List Image) := do
  let some d := d | throw .wrongKind
  let found ← gather defaultQuery d.root []
  let found ← gather namedQuery d.root found
  let name ← d.root.getOr "image" ""
  if name.falsy then return found
  (d.lines.filter fun (_,s) => contains s "image" && !startsWith s " ").foldlM
    (fun found (n,_) => Image.insert ⟨name,.int n,.int n⟩ found) found

def kind : Kind :=
  { rules, queries, images
    framework := "bitbucket_pipelines"
    describes := fun path _ => endsWith path "bitbucket-pipelines.yml" || endsWith path "bitbucket-pipelines.yaml" }

end Bitbucket

namespace GitlabCi

def scriptsName : String := "*.script[]"

def rulesName : String := "*.rules"

def queries : List (String × Query) := [ (scriptsName,.spread (.values .here (.field "script")) .here),
  (rulesName,.values .here (.field "rules"))]

def doublePipelines (conf : Value) : Answer := do
  let mut count : Nat := 0
  for rule in ← conf.elems do
    if ← rule.has "if" then
      if ← (← rule.field "if").startsWith "$CI_PIPELINE_SOURCE" then count := count+1
      if 1 < count then return (.failed,conf)
  return (.passed,conf)

def rules : List (Rule Value) := [
  ⟨"CKV_GITLABCI_2","Avoid creating rules that generate double pipelines",[rulesName],.each,doublePipelines⟩,
  ⟨"CKV_GITLABCI_1","Suspicious use of curl with CI environment variables in script",[scriptsName],.each,refuse (sends "$CI_")⟩]

structure Gathered where
  found : List Image
  first : Value
  last : Value

namespace Gathered

variable (g : Gathered)

def add (name : Value) : Result Gathered :=
  if name.truthy then do return {g with found := ← Image.insert ⟨name,g.first,g.last⟩ g.found}
  else .ok g

def one (v : Value) : Result Gathered :=
  match v with
  | .dict fs => do
    let g := {g with first := (Fields.get? fs startLine).getD (.int 0), last := (Fields.get? fs endLine).getD (.int 0)}
    g.add (← v.field "name")
  | .str s => g.add (.str s)
  | _ => .ok g

def setting (v : Value) : Result Gathered :=
  match v with
  | .list xs => xs.foldlM one g
  | v => g.one v

end Gathered

def images (d : Option Lined) : Result (List Image) := do
  let some d := d | throw .wrongKind
  (← d.root.valuesOf).foldlM (fun found job => do
    if !job.isDict then return found
    let start : Gathered := ⟨found,(job.get? startLine).getD (.int 0),(job.get? endLine).getD (.int 0)⟩
    let settings := job.entries.filter fun (k,_) => k.isOneOf ["image","services"]
    return (← settings.foldlM (fun g (_,v) => g.setting v) start).found) []

def kind : Kind :=
  { rules, queries, images
    framework := "gitlab_ci"
    hidden := [".gitlab-ci.yml",".gitlab-ci.yaml"]
    describes := fun path _ => endsWith path ".gitlab-ci.yml" || endsWith path ".gitlab-ci.yaml" }

end GitlabCi

namespace ArgoWorkflows

def version := of "^apiVersion:\\s*argoproj.io/" {eachLine := true}

def serviceAccount (spec : Value) : Answer := do
  let named := (← spec.keysOf).any (· == "serviceAccountName")
  return (.passIf (named && !(spec.getD "serviceAccountName" == "default")),spec)

def nonRoot (spec : Value) : Answer := do
  let context ← spec.get "securityContext"
  return (.passIf (context.isDict && (context.getD "runAsNonRoot").isTrue),spec)

def rules : List (Rule Value) := [
  ⟨"CKV_ARGO_1","Ensure Workflow pods are not using the default ServiceAccount",["spec"],.member,serviceAccount⟩,
  ⟨"CKV_ARGO_2","Ensure Workflow pods are running as non-root user",["spec"],.member,nonRoot⟩]

def addContainer (container : Value) (found : List Image) : Result (List Image) := do
  if container.falsy then return found
  match ← container.get "image" with
  | .str s =>
    if s.isEmpty then return found
    Image.insert ⟨.str s,← container.getOr startLine (.int 0),← container.getOr endLine (.int 0)⟩ found
  | _ => return found

def images (d : Option Lined) : Result (List Image) := do
  let some d := d | return []
  let spec := d.root.getD "spec"
  if !d.root.isDict || spec.falsy then return []
  match ← spec.get "templates" with
  | .list ts => ts.foldlM (fun found t => do
      let found ← addContainer (← t.get "container") found
      addContainer (← t.get "script") found) []
  | _ => return []

def kind : Kind :=
  { rules, images
    framework := "argo_workflows"
    describes := fun path text => (endsWith path ".yaml" || endsWith path ",yml") && version.occursIn text }

end ArgoWorkflows

namespace GithubActions

open CircleCi (stepsName stepsQuery)

def insecureCommands : Value → Answer := refuse fun conf => do
  if !(← conf.has "env") then return false
  return (← (← conf.getOr "env" (.dict [])).getOr "ACTIONS_ALLOW_UNSECURE_COMMANDS" false).truthy

def expression (inner : String) : Pattern := of ("\\$\x7b\x7b[ ]*" ++ inner ++ "[ ]*\x7d\x7d")

def foreignInputs : List Pattern := [
  "github.event.issue.title","github.event.issue.body","github.event.pull_request.title",
  "github.event.pull_request.body","github.event.comment.body","github.event.review.body",
  "github.event.review_comment.body","github.event.pages.*.page_name","github.event.head_commit.message",
  "github.event.head_commit.author.email","github.event.head_commit.author.name",
  "github.event.commits.*.author.email","github.event.commits.*.author.name",
  "github.event.pull_request.head.ref","github.event.pull_request.head.label",
  "github.event.pull_request.head.repo.default_branch","github.head_ref"].map expression

def shellInjection : Value → Answer := refuse fun conf => do
  if ← conf.has "run" then anyOccurs foreignInputs (← conf.getOr "run" "") else return false

def refuseRun (bad : Value → Result Bool) : Value → Answer := refuse fun conf => do bad (← conf.getOr "run" "")

def buildActions := ["docker/build-push-action","docker/bake-action"]

def buildCommands := ["docker build","ko build","buildah bud","buildah build",
  "podman image build","podman build","nerdctl build"]

def builds (step : Value) : Result Bool := do
  let mentions (v : Value) (words : List String) : Result Bool := if v.isNull then return false else words.anyM v.has
  let byAction ← mentions (← step.get "uses") buildActions
  let byCommand ← mentions (← step.get "run") buildCommands
  return byAction || byCommand

inductive Search where
  | nothing
  | built
  | signed (step : Value)

def searchSteps (words : List String) : Search → List Value → Result Search
  | .signed step,_ => .ok (.signed step)
  | s,[] => .ok s
  | .built,step :: rest => do
    if ← (← step.getOr "run" "").holdsAll words then return .signed step
    else searchSteps words .built rest
  | .nothing,step :: rest => do searchSteps words (if ← builds step then .built else .nothing) rest

/-- What follows the jobs only says where they stand, and there the search is over. -/
def searchJobs (words : List String) (jobs : Value) : Search → Entries → Answer
  | .signed step,_ => .ok (.passed,step)
  | .built,[] => .ok (.failed,jobs)
  | .nothing,[] => .ok (.passed,jobs)
  | s,(name,job) :: rest => do
    if name == .str startLine then return (.passed,jobs)
    let steps ← job.get "steps"
    let s ← if steps.truthy then do searchSteps words s (← steps.elems) else pure s
    searchJobs words jobs s rest

def signsWith (words : List String) (jobs : Value) : Answer := do
  searchJobs words jobs .nothing (← jobs.pairs)

def emptyDispatch (triggers : Value) : Answer :=
  let dispatch : Value := "workflow_dispatch"
  match triggers with
  | .list xs => .ok (if dispatch.elem xs then (.passed,dispatch) else (.unknown,.dict []))
  | .str _ => .ok (if triggers == dispatch then .passed else .unknown,triggers)
  | _ => do
    let manual ← triggers.get "workflow_dispatch"
    if manual.isDict then
      let inputs ← manual.getOr "inputs" (.dict [])
      if inputs.truthy then return (.failed,inputs)
    return (.passed,triggers)

def rules : List (Rule Value) := [
  ⟨"CKV_GHA_1","Ensure ACTIONS_ALLOW_UNSECURE_COMMANDS isn't true on environment variables",
    ["jobs",stepsName],.each,insecureCommands⟩,
  ⟨"CKV_GHA_5","Found artifact build without evidence of cosign sign execution in pipeline",
    ["jobs"],.member,signsWith ["cosign sign"]⟩,
  ⟨"CKV_GHA_6","Found artifact build without evidence of cosign sbom attestation in pipeline",
    ["jobs"],.member,signsWith ["cosign","sbom"]⟩,
  ⟨"CKV_GHA_7","The build output cannot be affected by user parameters other than the build entry point and the top-level source location. GitHub Actions workflow_dispatch inputs MUST be empty. ",
    ["on"],.member,emptyDispatch⟩,
  ⟨"CKV_GHA_4","Suspicious use of netcat with IP address",["jobs",stepsName],.each,refuseRun (occurs netcat)⟩,
  ⟨"CKV_GHA_2","Ensure run commands are not vulnerable to shell injection",["jobs",stepsName],.each,shellInjection⟩,
  ⟨"CKV_GHA_3","Suspicious use of curl with secrets",["jobs",stepsName],.each,refuseRun (sends "secret")⟩]

def linesOfKey (key : String) : Result (Int × Int) := do
  let last := ((split key ".").getLast?).getD ""
  let some i := find? last "[" | return (-1,-1)
  let inner := slice last (some (i+1)) (some (last.length - 1))
  match ← (split inner ":").mapM Decimal.integer with
  | [a,b] => return (a,b)
  | _ => throw .badValue

def around (v : Value) (first last : Int) : Result Bool := do
  if ← (← v.field startLine).le (.int first) then
    if first ≤ last then return ← Value.le (.int last) (← v.field endLine)
  return false

def jobAt (document : Value) (first last : Int) : Result String := do
  for (name,job) in ← (← document.getOr "jobs" (.dict [])).pairs do
    if isMark name then continue
    if ← around job first last then return name.display
  return ""

def stepAt (job : Value) (first last : Int) : Result String := do
  for step in ← (← job.getOr "steps" (.dict [])).elems do
    if ← around step first last then
      match step.item "name" with
      | .ok name => return name.display
      | .error .missingKey => match step.entries with
        | (_,v)::_ => return v.display
        | [] => throw .exhausted
      | .error f => throw f
  return ""

def resource (d : Lined) (key : String) : Result String := do
  let job := ((split key ".")[1]?).getD ""
  if job != "*" then return "jobs." ++ job
  let (first,last) ← linesOfKey key
  let job ← jobAt d.root first last
  let step ← stepAt (← (← d.root.field "jobs").field job) first last
  return "jobs." ++ job ++ ".steps." ++ step

def triggers (document : Value) : Value :=
  match document.getD "on" with
  | .str s => .set [.str s]
  | .dict fs => .set (((Fields.keys fs).filter fun k => k != startLine && k != endLine).map .str)
  | .table es => .set ((es.map Prod.fst).filter (!isMark ·))
  | _ => .set []

def jobsByEnd (document : Value) : Result Entries := do
  let jobs ← document.get "jobs"
  if jobs.falsy then return []
  (← jobs.pairs).foldlM (fun acc (name,job) => do
    if isMark name then return acc
    let acc := (← job.get endLine,name) :: acc
    let steps ← job.get "steps"
    if steps.falsy then return acc
    (← steps.elems).foldlM (fun acc step => do return (← step.get endLine,name) :: acc) acc) []

def completion (d : Lined) : Result (Int → Record → Result Record) := do
  if !d.root.isDict then return fun _ _ => .error .missingKey
  let name := d.root.getD "name"
  let started := triggers d.root
  let jobs ← jobsByEnd d.root
  return fun last r => .ok { r with
    job := .tuple [((jobs.find? fun (n,_) => n == .int last).map Prod.snd).getD .null]
    triggers := .tuple [started]
    workflowName := name }

def addImage (found : List Image) (job : Value) : Result (List Image) := do
  if !job.isDict then return found
  let container ← job.getOr "container" (.dict [])
  let first ← container.getOr startLine (.int 0)
  let last ← container.getOr endLine (.int 0)
  let name ← container.getOr "image" ""
  if name.truthy then Image.insert {name, first, last} found else return found

def images (d : Option Lined) : Result (List Image) := do
  let some d := d | return []
  if !d.root.isDict then return []
  (← (← d.root.getOr "jobs" (.dict [])).valuesOf).foldlM addImage []

def kind : Kind :=
  { rules, resource, completion, images
    framework := "github_actions"
    hidden := [".github"]
    describes := fun path _ => contains path ".github/workflows/" && (endsWith path "yml" || endsWith path "yaml")
    queries := [stepsQuery] }

end GithubActions

end InfraAudit.Pipeline
