import InfraAudit.Workspace

namespace InfraAudit.Terraform

open Text

structure ModulePath where
  path : String
  caller : String
  number : String
  deriving DecidableEq, Repr, Inhabited

namespace ModulePath

def key (m : ModulePath) : String := m.path ++ "[" ++ m.caller ++ "#" ++ m.number ++ "]"

def callMark := Text.Pattern.of "\\[.+\\#.+\\]"

def splitMark (mark : String) : Result (String × String) :=
  match find? mark ".tf#" with
  | none => .error .badValue
  | some i => .ok (slice mark (some 1) (some (i+3)),slice mark (some (i+4)) (some (-1)))

def splitMarks : List String → Result (String × String)
  | [] => .ok ("","")
  | mark::_ => splitMark mark

def read (key : String) : Result ModulePath := do
  let marks := (callMark.findAll key).map (·.whole)
  let path := if marks.isEmpty then key else callMark.replace key ""
  let (caller,number) ← splitMarks marks
  return ⟨path,caller,number⟩

def stripCaller (key : String) : String × Option String :=
  if endsWith key "]" && contains key "[" then
    let i := (find? key "[").getD 0
    (take key i,some (slice key (some (i+1)) (some (-1))))
  else (key,none)

def joinTrail (trail : List String) : String := join "->" trail

end ModulePath

/-- Those that mention a handled path, unless another key of the path has to wait. Gives these and
the keys that wait. -/
def nextKeys (handled waiting : List String) : List String × List String :=
  let ready (k : String) := handled.any fun h => contains k h
  let head (k : String) := (split k "[").headD ""
  let blocked := (waiting.filter fun k => !ready k).map head
  let next := waiting.filter ready
  (next.filter fun k => !blocked.contains (head k),
    (waiting.filter fun k => !ready k) ++ next.filter fun k => blocked.contains (head k))

structure ModuleTree where
  trails : List (String × List (List String)) := []
  definitions : Fields := []
  numbers : List ((String × String) × List String) := []
  deriving Inhabited

namespace ModuleTree

/-- The trails to its directory are those of its caller's, one call longer. -/
def addKey (definitions : Fields) (t : ModuleTree) (key : String) : Result ModuleTree := do
  let m ← ModulePath.read key
  let some callers := t.trails.lookup (PathName.dirname m.caller) | throw .missingKey
  let trails := callers.map fun trail => trail ++ [m.caller]
  let dir := PathName.dirname m.path
  return {
    trails := upsert dir [] (· ++ trails) t.trails
    definitions := Fields.insert m.path ((definitions.lookup key).getD .null) t.definitions
    numbers := upsert (m.path,m.caller) [] (· ++ [m.number]) t.numbers }

def addLevels (definitions : Fields) : Nat → ModuleTree → List String → List String → Result ModuleTree
  | 0,t,_,_ => .ok t
  | n+1,t,handled,waiting => do
    let (next,rest) := nextKeys handled waiting
    if next.isEmpty then return t
    let t ← next.foldlM (addKey definitions) t
    let paths ← next.mapM fun k => do return (← ModulePath.read k).path
    addLevels definitions n t (handled ++ paths) rest

def distinctTrails (trails : List (List String)) : List (List String) :=
  trails.foldl (fun acc t =>
    if acc.any fun u => ModulePath.joinTrail u == ModulePath.joinTrail t then acc else acc ++ [t]) []

def start (plain : Fields) : ModuleTree where
  trails := plain.foldl (fun acc (k,_) => upsert (PathName.dirname k) [[]] id acc) []
  definitions := plain

def withDistinctTrails (t : ModuleTree) : ModuleTree :=
  {t with trails := t.trails.map fun (d,ts) => (d,distinctTrails ts)}

def of (definitions : Fields) : Result ModuleTree := do
  let plain := definitions.filter fun x => !endsWith x.1 "]"
  let waiting := (definitions.map Prod.fst).filter fun k => endsWith k "]"
  let t ← addLevels definitions (waiting.length+1) (start plain) (plain.map Prod.fst) waiting
  return t.withDistinctTrails

end ModuleTree

end InfraAudit.Terraform
