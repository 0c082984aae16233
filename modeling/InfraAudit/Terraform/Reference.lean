import InfraAudit.Text.Pattern.Reader
import InfraAudit.Value.Access

namespace InfraAudit.Terraform

open Text Text.Pattern

structure Reference where
  kind : String
  parts : List String
  text : String
  deriving DecidableEq, Repr, Inhabited

namespace Reference

def leadWords := ["var","local","module","data"]

def kindNames : List (String × String) :=
  [("RESOURCE","resource"),("DATA","data"),("LOCALS","locals"),("MODULE","module"),
    ("OUTPUT","output"),("PROVIDER","provider"),("TERRAFORM","terraform"),
    ("TF_VARIABLE","tfvar"),("VARIABLE","variable"),("CUSTOM","custom")]

def kindOf (word : String) : Result String :=
  if word == "var" then .ok "variable"
  else if word == "local" then .ok "locals"
  else (kindNames.lookup (upper word)).elim (.error .noMember) .ok

def functionStart := of "([.a-zA-Z]+)\\("

def closingParens := of "[)]+"

variable (s : String)

def withoutCalls : String := closingParens.replace (functionStart.replace s "") ""

def numberIndex := of "\\[([0-9]+)\\]"

def withoutIndexes : String := replace (replace (numberIndex.replace s "") "[" " [ ") "]" " ] "

def nameIndex := of "\\[\"([^\\d\\W]\\w*)\"\\]"

def trimDots : String :=
  let s := if startsWith s "." then drop s 1 else s
  if endsWith s "." then dropEnd s 1 else s

def dotNames : String := join "." ((nameIndex.split s).map fun p => trimDots (p.getD ""))

def isMark (c : Char) : Bool := c == '$' || c == '\x7b' || c == '\x7d'

def withoutMarks (s new : String) : String :=
  String.ofList (s.toList.flatMap fun c => if isMark c then new.toList else [c])

def clean : String := withoutMarks (dotNames (withoutIndexes (withoutCalls s))) " "

def interpolation := of "\\$\\\x7b([^\\\x7d]*)\\\x7d"

variable (aliases : Value) (resourceTypes : List String)

def aliased (word : String) (parts : List String) : Result String := do
  let kind ← if ← aliases.has word then (← aliases.field word).field "block_type_" else pure ""
  let full := join "." parts
  let kind ← if ← aliases.has full then (← aliases.field full).field "block_type_" else pure kind
  if kind.truthy then kindOf (← kind.needText) else return ""

def addNew (r : Reference) (rs : List Reference) : List Reference :=
  if rs.contains r then rs else rs ++ [r]

def addWord (rs : List Reference) (w : String) : Result (List Reference) := do
  let parts := split w "."
  match parts with
  | first::second :: rest =>
    if isNonemptyOf isNumericLike first then return rs
    if leadWords.contains first then return addNew ⟨← kindOf first,second::rest,w⟩ rs
    let kind ← aliased aliases first parts
    if !kind.isEmpty && !rs.contains ⟨kind,parts,""⟩ then return rs ++ [⟨kind,parts,w⟩]
    if resourceTypes.contains first then return addNew ⟨"resource",(first ++ "." ++ second) :: rest,w⟩ rs
    return rs
  | _ => return rs

def inText (s : String) : Result (List Reference) := do
  let words := (words s).filter fun w => !(startsWith w "." || startsWith w "/.")
  let pieces := words.flatMap fun w => (interpolation.split w).flatMap fun p => Text.split (p.getD "") ","
  pieces.foldlM (addWord aliases resourceTypes) []

def longestSearched : Nat := 10000

mutual

def inValue : Value → Result (List Reference)
  | .list xs => inItems xs
  | .dict fs => inFields fs
  | .table es => inEntries es
  | .str s => if s.length > longestSearched then .ok [] else inText aliases resourceTypes (clean s)
  | _ => .ok []

def inItems : List Value → Result (List Reference)
  | [] => .ok []
  | x::xs => do return (← inValue x) ++ (← inItems xs)

def inFields : Fields → Result (List Reference)
  | [] => .ok []
  | (_,x)::r => do return (← inValue x) ++ (← inFields r)

def inEntries : Entries → Result (List Reference)
  | [] => .ok []
  | (_,x)::r => do return (← inValue x) ++ (← inEntries r)

end

end Reference

end InfraAudit.Terraform
