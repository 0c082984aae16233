import InfraAudit.Text.Pattern.Reader

namespace InfraAudit.PathName

open Text

variable (p : String)

def unified : String := replace p "\\" "/"

def dirname : String :=
  match findLast? p "/" with
  | none => ""
  | some i =>
    let head := take p (i+1)
    if head.toList.all (· == '/') then head else stripRight (· == '/') head

def basename : String :=
  match findLast? p "/" with
  | none => p
  | some i => drop p (i+1)

def join (dir name : String) : String :=
  if startsWith name "/" then name
  else if dir.isEmpty || endsWith dir "/" then dir ++ name
  else dir ++ "/" ++ name

def normalParts (absolute : Bool) : List String → List String → List String
  | acc,[] => acc.reverse
  | acc,p :: ps =>
    if p.isEmpty || p == "." then normalParts absolute acc ps
    else if p != ".." then normalParts absolute (p::acc) ps
    else match acc with
      | [] => if absolute then normalParts absolute [] ps else normalParts absolute [p] ps
      | q::acc' =>
        if q == ".." then normalParts absolute (p::acc) ps else normalParts absolute acc' ps

def normalize : String :=
  if p.isEmpty then "."
  else
    let absolute := startsWith p "/"
    let slashes := if startsWith p "//" && !startsWith p "///" then "//"
      else if absolute then "/" else ""
    let r := slashes ++ Text.join "/" (normalParts absolute [] (Text.split p "/"))
    if r.isEmpty then "." else r

def absolute (cwd p : String) : String := normalize (join cwd p)

def parts : List String := (split p "/").filter fun x => !x.isEmpty

def commonLength : List String → List String → Nat
  | a::as,b :: bs => if a == b then commonLength as bs+1 else 0
  | _,_ => 0

def relativeTo (cwd p start : String) : Result String :=
  if p.isEmpty then .error .badValue
  else
    let from_ := parts (absolute cwd (if start.isEmpty then "." else start))
    let goal := parts (absolute cwd p)
    let n := commonLength from_ goal
    let r := List.replicate (from_.length - n) ".." ++ goal.drop n
    .ok (if r.isEmpty then "." else Text.join "/" r)

def commonPath (p q : String) : String :=
  let ps := (parts p).filter (· != ".")
  let qs := (parts q).filter (· != ".")
  "/" ++ Text.join "/" (ps.take (commonLength ps qs))

def commonStart : List String → String
  | [] => ""
  | p::ps => ps.foldl (fun acc q =>
      String.ofList (((acc.toList.zip q.toList).takeWhile fun (a,b) => a == b).map Prod.fst)) p

/-- The last dot of a file's name with what follows, dots in front apart. -/
def extension : String :=
  let name := basename p
  let core := stripLeft (· == '.') name
  match findLast? core "." with
  | none => ""
  | some i => drop core i

end InfraAudit.PathName

namespace InfraAudit

open PathName

structure SourceFile where
  text : String
  tree : Option Value := none
  deriving Inhabited

structure Workspace where
  root : String
  files : List (String × SourceFile)
  deriving Inhabited

namespace Workspace

variable (ws : Workspace) (path : String) (dir : String)

def file? : Option SourceFile := ws.files.lookup path

def need : Result SourceFile := (ws.file? path).elim (.error .fileNotFound) .ok

def shown : Result String := do return "/" ++ (← relativeTo ws.root path ws.root)

def isFile : Bool := (ws.file? path).isSome

def under : String := if Text.endsWith dir "/" then dir else dir ++ "/"

def isDir : Bool :=
  path == ws.root || Text.startsWith ws.root (under path)
    || ws.files.any fun (p,_) => Text.startsWith p (under path)

def has : Bool := ws.isFile path || ws.isDir path

def insertName (name : String) (names : List String) : List String :=
  if names.contains name then names else name :: names

def names : List String :=
  Text.sort (ws.files.foldr (fun (p,_) acc =>
    if Text.startsWith p (under dir) then
      insertName (((Text.split (Text.drop p (under dir).length) "/").head?).getD "") acc
    else acc) [])

def fileNames : List String := (ws.names dir).filter fun n => ws.isFile (join dir n)

def dirNames : List String := (ws.names dir).filter fun n => !ws.isFile (join dir n)

def isAudited : Bool := [".tf",".yml",".yaml",".json",".template"].contains (extension path)

def ignoredNames := ["node_modules",".terraform",".serverless"]

def kept (excluded : List String) (included : List String) (names : List String) : Result (List String) := do
  let visible := names.filter fun n => !ignoredNames.contains n && !(Text.startsWith n "." && !included.contains n)
  let patterns ← excluded.mapM fun p => Text.Pattern.read (Text.replace p ".terraform" "\\.terraform")
  return visible.filter fun n => !patterns.any fun p => p.occursIn (join dir n)

structure Stop where
  dir : String
  dirs : List String
  files : List String
  deriving Inhabited

def walkFuel (ws : Workspace) (prune : String → List String → Result (List String)) : Nat → String → Result (List Stop)
  | 0,_ => .ok []
  | n+1,dir => do
    let dirs ← prune dir (ws.dirNames dir)
    let below ← dirs.mapM fun d => walkFuel ws prune n (join dir d)
    return ⟨dir,dirs,ws.fileNames dir⟩ :: below.flatten

def depth : Nat := ws.files.foldl (fun n (p,_) => max n (parts p).length) 0

def walk (prune : String → List String → Result (List String)) :
    Result (List Stop) := walkFuel ws prune (ws.depth+1) ws.root

def sources (hidden excluded : List String) : Result (List String) := do
  let stops ← ws.walk fun dir names => kept dir excluded hidden names
  let files ← stops.mapM fun s => do return (← kept s.dir excluded hidden s.files).map (join s.dir)
  return files.flatten

end Workspace

end InfraAudit
