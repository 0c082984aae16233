import InfraAudit.Text.CharClass

/-!
Text operations on lists of characters. Searching and splitting go from left to right; a counter of characters still to be
skipped keeps the recursion on the list itself.

Letter case. Runs of cased characters are `(first, last, step, shift)`, from tables of bounds and of shifts; in a run of pairs
each small letter follows its capital.
-/

set_option autoImplicit false

namespace InfraAudit.Text

def pairUp : List Nat → List (Nat × Nat)
  | a::b::r => (a,b) :: pairUp r
  | _ => []

def pairRuns : List (Nat × Nat) := pairUp (boundsIn
  "h4bA443E3b83452304060708430503042304090303G3G424b24G906058i2240cQM9030cUWAbG3C3cMguIe4CcMrX0cz90747030BcQ9250bheM
  b8KQdSC4bOB23850524ICE527062T0").toList

def shiftedRuns : List ((Nat × Nat) × Int) := (pairUp (boundsIn
  "fCM26eR1b31I03030b30lB2412G28cA21F1Vh6b1dcAb1uBc715cj7b632q9795B79795R7P797979111D3D111D111D111jXFxBPbz5bBc71cfpU
  PbhYb3dTZeDA2E2621bx7bEdgUVxk1Vbho1X").toList).zip
  [32,32,205,217,2,2,2,2,37,63,32,32,-130,80,32,48,7264,38864,8,-3008,-3008,-8,-8,-8,-8,-8,-8,-8,-8,-8,-8,-74,-86,-8,
    -100,-8,-112,-128,-126,16,26,48,-10815,32,40,40,39,39,39,39,64,32,32,34]

def shiftedAlone : List (Nat × Int) := (boundsIn
  "kG9581131215127359bR1b5Q31511iQ76bVb15fJdhJ6du9f7222cLGWGiA417dbK119111bhr1GT11112111H11").toList.zip
  [-121,210,206,79,202,203,205,207,211,209,211,213,214,218,218,218,219,-97,-56,-130,10795,-163,10792,-195,69,71,116,
    38,64,8,-60,-7,15,7264,7264,-7615,-8,-8,-8,-8,-9,-9,-7,-9,-7517,-8383,-8262,28,-10743,-3814,-10727,-10780,-10749,
    -10783,-10782,-35332,-42280,-42308,-42319,-42315,-42305,-42308,-42258,-42282,-42261,928,-48,-42307,-35384]

def alone (p : Nat × Int) : Nat × Nat × Nat × Int := (p.1,p.1,1,p.2)

def lowerRuns : List (Nat × Nat × Nat × Int) :=
  shiftedRuns.map (fun ((a,b),d) => (a,b,1,d)) ++ pairRuns.map (fun (a,b) => (a,b,2,(1 : Int))) ++ shiftedAlone.map alone

/-- Small letters that are no counterpart of a capital, or not the one of their kind. -/
def loneRuns : List (Nat × Nat × Nat × Int) :=
  [(8064,8071,1,0),(8080,8087,1,0),(8096,8103,1,0)] ++ ((boundsIn "f1dGc6bY33b3jFdHE141Q14gsJ11111111oRhSB5bC").toList.zip
    [743,-232,-300,-1,-1,-1,-1,84,-31,-62,-57,-47,-54,-86,-80,-96,-6254,-6253,-6244,-6242,-6242,-6243,-6236,-6181,
      35266,-59,0,-7205,0,0]).map alone

def upperRuns : List (Nat × Nat × Nat × Int) :=
  loneRuns ++ lowerRuns.map fun (a,b,step,d) => (Int.toNat (a+d),Int.toNat (b+d),step,-d)

def shiftBy (runs : List (Nat × Nat × Nat × Int)) (c : Char) : Char :=
  let n := c.toNat
  match runs.find? fun (a,b,step,_) => a ≤ n && n ≤ b && (n - a) % step == 0 with
  | some (_,_,_,d) => Char.ofNat (Int.toNat (n+d))
  | none => c

def lowerChar (c : Char) : Char := if isAscii c then c.toLower else shiftBy lowerRuns c

/-- The sharp s is the one letter in use whose upper-case form has two characters. -/
def upperChars (c : Char) : List Char :=
  if isAscii c then [c.toUpper] else if c == 'ß' then ['S','S'] else [shiftBy upperRuns c]

def lower (s : String) : String := String.ofList (s.toList.map lowerChar)

def upper (s : String) : String := String.ofList (s.toList.flatMap upperChars)

end InfraAudit.Text

namespace InfraAudit.Text

open String

def findFrom (pat : List Char) : Nat → List Char → Option Nat
  | i,[] => if pat.isEmpty then some i else none
  | i,c :: r => if pat.isPrefixOf (c::r) then some i else findFrom pat (i+1) r

def find? (s pat : String) : Option Nat := findFrom pat.toList 0 s.toList

def contains (s pat : String) : Bool := (find? s pat).isSome

def findLastFrom (pat : List Char) : Nat → Option Nat → List Char → Option Nat
  | i,best,[] => if pat.isEmpty then some i else best
  | i,best,c :: r => findLastFrom pat (i+1) (if pat.isPrefixOf (c::r) then some i else best) r

def findLast? (s pat : String) : Option Nat := findLastFrom pat.toList 0 none s.toList

/-- The first argument counts characters of the current separator still to be passed over, the
second holds the piece so far, reversed. -/
def splitAux (sep : List Char) : Nat → List Char → List Char → List (List Char)
  | _,acc,[] => [acc.reverse]
  | k+1,acc,_ :: r => splitAux sep k acc r
  | 0,acc,c :: r =>
    if sep.isPrefixOf (c::r) then acc.reverse :: splitAux sep (sep.length - 1) [] r
    else splitAux sep 0 (c::acc) r

def splitChars (sep s : List Char) : List (List Char) := splitAux sep 0 [] s

def split (s sep : String) : List String := (splitChars sep.toList s.toList).map ofList

def join (sep : String) (parts : List String) : String := sep.intercalate parts

def replaceAux (old new : List Char) : Nat → List Char → List Char
  | _,[] => []
  | k+1,_ :: r => replaceAux old new k r
  | 0,c :: r =>
    if old.isPrefixOf (c::r) then new ++ replaceAux old new (old.length - 1) r
    else c :: replaceAux old new 0 r

def replaceChars (old new s : List Char) : List Char :=
  if old.isEmpty then new ++ s.flatMap (fun c => c :: new) else replaceAux old new 0 s

def replace (s old new : String) : String := ofList (replaceChars old.toList new.toList s.toList)

def count (s pat : String) : Nat := if pat.isEmpty then s.length+1 else (split s pat).length - 1

def startsWith (s pat : String) : Bool := pat.toList.isPrefixOf s.toList

def endsWith (s pat : String) : Bool := pat.toList.isSuffixOf s.toList

def dropPrefix (s pat : String) : String := if startsWith s pat then ofList (s.toList.drop pat.length) else s

def dropSuffix (s pat : String) : String := if endsWith s pat then ofList (s.toList.take (s.length - pat.length)) else s

variable (s : String) (p : Char → Bool)

def stripLeft (s : String) : String := ofList (s.toList.dropWhile p)

def dropTrailing (cs : List Char) : List Char := (cs.reverse.dropWhile p).reverse

def stripRight (s : String) : String := ofList (dropTrailing p s.toList)

def stripBy (s : String) : String := ofList (dropTrailing p (s.toList.dropWhile p))

def strip : String := stripBy isBlank s

def stripChars (s chars : String) : String := stripBy (chars.toList.contains ·) s

def words : List String :=
  let step := fun (acc : List (List Char) × List Char) (c : Char) =>
    if isBlank c then (if acc.2.isEmpty then acc else (acc.2.reverse :: acc.1,[]))
    else (acc.1,c :: acc.2)
  let (done,cur) := s.toList.foldl step ([],[])
  ((if cur.isEmpty then done else cur.reverse :: done).reverse).map ofList

def linesAux : List Char → List Char → List (List Char)
  | acc,[] => if acc.isEmpty then [] else [acc.reverse]
  | acc,'\r' :: '\n' :: r => ('\n' :: '\r' :: acc).reverse :: linesAux [] r
  | acc,c :: r =>
    if isLineBreak c then (c::acc).reverse :: linesAux [] r else linesAux (c::acc) r

def linesKeepingEnds : List String := (linesAux [] s.toList).map ofList

def dropLineEnd : String :=
  match s.toList.reverse with
  | '\n' :: '\r' :: r => ofList r.reverse
  | c::r => if isLineBreak c then ofList r.reverse else s
  | [] => s

def lines : List String := (linesKeepingEnds s).map dropLineEnd

def newlineTerminatedAux : List Char → List Char → List (List Char)
  | acc,[] => if acc.isEmpty then [] else [acc.reverse]
  | acc,c :: r =>
    if c == '\n' then (c::acc).reverse :: newlineTerminatedAux [] r
    else newlineTerminatedAux (c::acc) r

def newlineTerminated : List String := (newlineTerminatedAux [] s.toList).map ofList

def cutAt (s sep : String) : String × Option String :=
  match find? s sep with
  | none => (s,none)
  | some i =>
    let cs := s.toList
    (ofList (cs.take i),some (ofList (cs.drop (i+sep.length))))

def cutAtLast (s sep : String) : Option (String × String) :=
  (findLast? s sep).map fun i =>
    let cs := s.toList
    (ofList (cs.take i),ofList (cs.drop (i+sep.length)))

def take (s : String) (n : Nat) : String := ofList (s.toList.take n)

def drop (s : String) (n : Nat) : String := ofList (s.toList.drop n)

def dropEnd (n : Nat) : String := take s (s.length - n)

def clampIndex (len : Nat) (i : Int) : Nat := if i < 0 then (i+len).toNat else min i.toNat len

def sliceList {α : Type} (xs : List α) (i j : Option Int) : List α :=
  let a := (i.map (clampIndex xs.length)).getD 0
  let b := (j.map (clampIndex xs.length)).getD xs.length
  (xs.take b).drop a

def slice (i j : Option Int) : String := ofList (sliceList s.toList i j)

def isNonemptyOf (s : String) : Bool := !s.isEmpty && s.toList.all p

def replicate (n : Nat) (s : String) : String := String.join (List.replicate n s)

def padRight (w : Nat) : String := s ++ ofList (List.replicate (w - s.length) ' ')

def padLeft (w : Nat) (c : Char) : String := ofList (List.replicate (w - s.length) c) ++ s

def capitalize : String :=
  match s.toList with
  | [] => ""
  | c::r => ofList (upperChars c ++ r.map lowerChar)

def lt (a b : String) : Bool := decide (a < b)

def le (a b : String) : Bool := !lt b a

def sort (xs : List String) : List String := xs.mergeSort le

def sortOn {α : Type} (key : α → String) (xs : List α) : List α := xs.mergeSort fun a b => le (key a) (key b)

inductive GlobPart where
  | char (c : Char)
  | any
  | many
  | oneOf (negated : Bool) (ranges : List (Char × Char))
  deriving Repr, Inhabited

def globRanges : List Char → List (Char × Char)
  | a :: '-' :: b :: r => (a,b) :: globRanges r
  | a::r => (a,a) :: globRanges r
  | [] => []

/-- A bracket directly after the opening one, or after its exclamation mark, does not close the set.
-/
def globSet? (cs : List Char) : Option (List Char × List Char) :=
  let (mark,r) := match cs with
    | '!' :: r => (['!'],r)
    | r => ([],r)
  let (first,r) := match r with
    | ']' :: r => ([']'],r)
    | r => ([],r)
  let inner := r.takeWhile (· != ']')
  match r.drop inner.length with
  | _::rest => some (mark ++ first ++ inner,rest)
  | [] => none

def readGlobFuel : Nat → List Char → List GlobPart
  | 0,_ | _,[] => []
  | n+1,'*' :: r => .many :: readGlobFuel n r
  | n+1,'?' :: r => .any :: readGlobFuel n r
  | n+1,'[' :: r =>
    match globSet? r with
    | some ('!' :: inner,rest) => .oneOf true (globRanges inner) :: readGlobFuel n rest
    | some (inner,rest) => .oneOf false (globRanges inner) :: readGlobFuel n rest
    | none => .char '[' :: readGlobFuel n r
  | n+1,c :: r => .char c :: readGlobFuel n r

def readGlob (pattern : String) : List GlobPart := readGlobFuel (pattern.length+1) pattern.toList

def GlobPart.accepts : GlobPart → Char → Bool
  | .char d,c => c == d
  | .any,_ | .many,_ => true
  | .oneOf negated ranges,c => (ranges.any fun (a,b) => a ≤ c && c ≤ b) != negated

def globRun : List GlobPart → List Char → Bool
  | [],cs => cs.isEmpty
  | .many :: ps,[] => globRun ps []
  | .many :: ps,c :: cs => globRun ps (c::cs) || globRun (.many :: ps) cs
  | _::_,[] => false
  | p::ps,c :: cs => p.accepts c && globRun ps cs
termination_by ps cs => ps.length+cs.length

def squeezeStars : List GlobPart → List GlobPart
  | .many :: .many :: ps => squeezeStars (.many :: ps)
  | p::ps => p :: squeezeStars ps
  | [] => []

def globMatches (s pattern : String) : Bool := globRun (squeezeStars (readGlob pattern)) s.toList

def hasGlob (pattern : String) : Bool := pattern.toList.any fun c => c == '*' || c == '?' || c == '['

end InfraAudit.Text
