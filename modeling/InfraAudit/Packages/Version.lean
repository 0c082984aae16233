import InfraAudit.Text.Pattern.Reader

namespace InfraAudit.Packages

open Text

inductive Stage where
  | alpha
  | beta
  | candidate
  deriving DecidableEq, Repr

inductive LocalPart where
  | number (n : Nat)
  | word (s : String)
  deriving DecidableEq, Repr

structure Numbered where
  epoch : Nat := 0
  release : List Nat
  pre : Option (Stage × Nat) := none
  post : Option Nat := none
  dev : Option Nat := none
  localMark : Option (List LocalPart) := none
  deriving DecidableEq, Repr

inductive Version where
  | numbered (v : Numbered)
  | free (text : String)
  deriving DecidableEq, Repr

namespace Version

def scheme : Pattern := .of ("\\s*v?(?:(?:([0-9]+)!)?([0-9]+(?:\\.[0-9]+)*)" ++
    "(?:[-_\\.]?(a|b|c|rc|alpha|beta|pre|preview)[-_\\.]?([0-9]+)?)?" ++
    "(?:-([0-9]+)|[-_\\.]?(post|rev|r)[-_\\.]?([0-9]+)?)?" ++ "([-_\\.]?dev[-_\\.]?([0-9]+)?)?)" ++
    "(?:\\+([a-z0-9]+(?:[-_\\.][a-z0-9]+)*))?\\s*")

def number (s : Option String) : Nat := (s.bind (·.toNat?)).getD 0

def stageOf : String → Stage
  | "a" | "alpha" => .alpha
  | "b" | "beta" => .beta
  | _ => .candidate

def localPart (s : String) : LocalPart :=
  match (if s.toList.all Char.isDigit then s.toNat? else none) with
  | some n => .number n
  | none => .word s

def localParts (s : String) : List LocalPart := (split (replace (replace s "_" ".") "-" ".") ".").map localPart

def ofFound (m : Found) : Numbered where
  epoch := number (m.group? 1)
  release := (split ((m.group? 2).getD "") ".").map fun s => s.toNat?.getD 0
  pre := (m.group? 3).map fun s => (stageOf s,number (m.group? 4))
  post := match m.group? 5, m.group? 6 with
    | some n,_ => some (number (some n))
    | none,some _ => some (number (m.group? 7))
    | none,none => none
  dev := (m.group? 8).map fun _ => number (m.group? 9)
  localMark := (m.group? 10).map localParts

def read (s : String) : Version :=
  match scheme.matchFull? (lower s) with
  | some m => .numbered (ofFound m)
  | none => .free s

end Version

def Stage.letters : Stage → String
  | .alpha => "a"
  | .beta => "b"
  | .candidate => "rc"

def LocalPart.text : LocalPart → String
  | .number n => toString n
  | .word s => s

def Numbered.text (v : Numbered) : String :=
  (if v.epoch == 0 then "" else toString v.epoch ++ "!") ++ join "." (v.release.map toString)
    ++ ((v.pre.map fun (s,n) => s.letters ++ toString n).getD "")
    ++ ((v.post.map fun n => ".post" ++ toString n).getD "") ++ ((v.dev.map fun n => ".dev" ++ toString n).getD "")
    ++ ((v.localMark.map fun ps => "+" ++ join "." (ps.map LocalPart.text)).getD "")

def Version.text : Version → String
  | .numbered v => v.text
  | .free s => s

def Stage.rank : Stage → Nat
  | .alpha => 0
  | .beta => 1
  | .candidate => 2

def LocalPart.number? : LocalPart → Option Nat
  | .number n => some n
  | .word _ => none

def LocalPart.letters : LocalPart → String
  | .number _ => ""
  | .word s => s

instance : Ord LocalPart := ⟨compareLex (compareOn LocalPart.number?) (compareOn LocalPart.letters)⟩

namespace Numbered

variable (v : Numbered)

def core : List Nat := (v.release.reverse.dropWhile (· == 0)).reverse

/-- A version under development alone comes first, the release after all its stages. -/
def preRank : List Nat :=
  match v.pre, v.post, v.dev with
  | some (s,n),_,_ => [1,s.rank,n]
  | none,none,some _ => [0]
  | none,_,_ => [2]

def postRank : List Nat :=
  match v.post with
  | some n => [1,n]
  | none => [0]

def devRank : List Nat :=
  match v.dev with
  | some n => [0,n]
  | none => [1]

instance : Ord Numbered := ⟨compareLex (compareOn epoch) <| compareLex (compareOn core) <| compareLex (compareOn preRank) <|
  compareLex (compareOn postRank) <| compareLex (compareOn devRank) (compareOn localMark)⟩

def major : Nat := v.release.headD 0

end Numbered

namespace Version

def freePart : Pattern := .of "(\\d+|[a-z]+|\\.|-)"

def freeParts (s : String) : List String :=
  ((freePart.split (lower s)).filterMap fun p =>
    let p := match p.getD "" with
      | "pre" | "preview" => "c"
      | "-" => "final-"
      | "rc" => "c"
      | "dev" => "@"
      | p => p
    if p.isEmpty || p == "." then none
    else if (p.toList.head?.map Char.isDigit).getD false then some (padLeft p 8 '0')
    else some ("*" ++ p)) ++ ["*final"]

def dropVoid (word : String) (parts : List String) : List String :=
  let parts := if lt word "*final" then parts.dropWhile (· == "*final-") else parts
  parts.dropWhile (· == "00000000")

def freeKey (s : String) : List String :=
  ((freeParts s).foldl (fun acc p => p :: (if startsWith p "*" then dropVoid p acc else acc)) []).reverse

def numbered? : Version → Option Numbered
  | .numbered v => some v
  | .free _ => none

def words : Version → List String
  | .numbered _ => []
  | .free s => freeKey s

instance : Ord Version := ⟨compareLex (compareOn numbered?) (compareOn words)⟩

def lt (v w : Version) : Bool := compare v w == .lt

def lowest? : List Version → Option Version
  | [] => none
  | v::vs => some (vs.foldl (fun m w => if w.lt m then w else m) v)

def highest? : List Version → Option Version
  | [] => none
  | v::vs => some (vs.foldl (fun m w => if m.lt w then w else m) v)

def major? (v : Version) : Option Nat := v.numbered?.map Numbered.major

/-- The version to move to. If the lowest of each list agree on the major number, or some are free,
it is the highest of them; else the highest of all with the major number of that one. -/
def compliant? (fixes : List (List Version)) : Option Version := do
  let minima := fixes.filterMap lowest?
  let low ← lowest? minima
  let high ← highest? minima
  match low.major?, high.major? with
  | some a,some b =>
    if a == b then some high else highest? (fixes.flatten.filter fun v => v.major? == some b)
  | _,_ => some high

end Version

end InfraAudit.Packages
