import InfraAudit.Json.Path.Reader
import InfraAudit.Policy.Operator

/-!
Conditions of policies. A condition asks something of one attribute or of connections, or combines other conditions; a
filter keeps the verdicts of some blocks only.
-/

namespace InfraAudit.Policy

open Text

inductive TypeNames where
  | oneOf (names : List String)
  | partOf (text : String)
  deriving Repr, Inhabited

namespace TypeNames

def isEmpty : TypeNames → Bool
  | .oneOf ns => ns.isEmpty
  | .partOf s => s.isEmpty

def members : TypeNames → List String
  | .oneOf ns => ns
  | .partOf s => s.toList.map String.singleton

def has (t : TypeNames) (type : Value) : Result Bool :=
  match t with
  | .oneOf ns => .ok (match type.text? with
    | some s => ns.contains s
    | none => false)
  | .partOf s => do return contains s (← type.needText)

def includes (t : TypeNames) (block : Fields) : Result Bool :=
  if t.isEmpty then .ok true
  else match block.lookup "resource_type" with
    | some type => t.has type
    | none => .ok false

end TypeNames

/-- They may store what they find in the block, where it stays even if the test fails. -/
abbrev Test := ExceptT Fault (StateM Fields)

structure AttributeTest where
  types : TypeNames
  operator : Operator
  attribute? : Option String
  value : Value
  byPath : Bool := false

inductive Link where
  | linked
  | notLinked
  | oneLinked
  deriving DecidableEq, Repr

inductive Condition where
  | attr (test : AttributeTest)
  | connection (link : Link) (types connected : TypeNames)
  | filter (attribute? : Option String) (value : Value) (types : TypeNames)
  | conj (parts : List Condition)
  | disj (parts : List Condition)
  | negation (part : Condition)

namespace AttributeTest

def hasWildcard (name : String) : Bool :=
  contains (drop (String.ofList (name.toList.takeWhile (!isBlank ·))) 1) ".*"

def wildcardPatterns (name : String) : Result (Pattern × Pattern) := do
  let parts := split name "."
  let one (ps : List String) : String := "^" ++ join "[.]" ps ++ "$"
  let group (p : String) : String := "(" ++ p ++ ")"
  let numbered ← Pattern.read (one (parts.map fun p => if p == "*" then "[\\d]+" else group p))
  let bare ← Pattern.read (one ((parts.filter (· != "*")).map group))
  return (numbered,bare)

/-- Each place becomes an attribute of its own, named by the way to it, unless there is one of the
name. -/
def withSpots (block : Fields) : List Json.Spot → Fields
  | [] => block
  | s::ss => withSpots (if Fields.has block s.path then block else block ++ [(s.path,s.value)]) ss

variable (t : AttributeTest)

def query? : Option String := t.attribute?.filter fun a => !a.isEmpty && (t.byPath || hasWildcard a)

/-- The block with what a path query selects, and the attributes that the query or a name with `*` stands for. -/
def look (block : Fields) : Result (Fields × List String) :=
  match t.query? with
  | none => .ok (block,[])
  | some name =>
    if t.byPath then do
      let path ← Json.Path.read name
      let spots ← path.select (.dict block)
      return (withSpots block spots,spots.map (·.path))
    else do
      let (numbered,bare) ← wildcardPatterns name
      return (block,(block.map Prod.fst).filter fun k => numbered.matches? k || bare.matches? k)

def asked (selected : List String) : List (Option String) :=
  if selected.isEmpty then [t.attribute?] else selected.map some

def holdsFor (block : Fields) (key : Option String) : Result Bool := t.operator.holds block key t.value

/-- All attributes have to satisfy the operator for a path query, and one otherwise, so the first
that does not, or does, settles it. -/
def settle (t : AttributeTest) (block : Fields) : List (Option String) → Result Bool
  | [] => .ok t.byPath
  | k::ks => do
    let b ← t.holdsFor block k
    if b = t.byPath then t.settle block ks else return b

def answer (block : Fields) (selected : List String) : Result Bool := do
  if ← t.types.includes block then t.settle block (t.asked selected) else return false

def holds : Test Bool := do
  let (block,selected) ← t.look (← get)
  set block
  t.answer block selected

end AttributeTest

namespace Condition

def filter? : Condition → Option (Option String × Value)
  | .filter a v _ => some (a,v)
  | _ => none

def keeps (attribute? : Option String) (value : Value) (block : Fields) : Result Bool :=
  match attribute? with
  | none | some "" => .ok false
  | some k =>
    let v := attributeOf block (some k)
    if v.falsy then .ok false else value.holds v

mutual

def isConnected : Condition → Bool
  | .connection _ _ _ => true
  | .conj cs | .disj cs => anyConnected cs
  | _ => false

def anyConnected : List Condition → Bool
  | [] => false
  | c::cs => isConnected c || anyConnected cs

end

mutual

def typeNames : Condition → List String
  | .attr t => t.types.members
  | .connection _ ts _ | .filter _ _ ts => ts.members
  | .conj cs | .disj cs => typeNamesOf cs
  | .negation c => typeNames c

def typeNamesOf : List Condition → List String
  | [] => []
  | c::cs => typeNames c ++ typeNamesOf cs

end

mutual

def holdsAt : Condition → Test Bool
  | .attr t => t.holds
  | .connection _ _ _ => throw (.unsupported "")
  | .filter a v _ => do keeps a v (← get)
  | .conj cs => holdAt true cs
  | .disj cs => holdAt false cs
  | .negation c => do return !(← holdsAt c)

/-- All have to hold, or one, so the first that does not, or does, settles it. -/
def holdAt (all : Bool) : List Condition → Test Bool
  | [] => return all
  | c::cs => do
    let b ← holdsAt c
    if b = all then holdAt all cs else return b

end

mutual

/-- Attribute conditions that stand beside connections add their types to the first end. -/
def endTypes : Condition → TypeNames × TypeNames
  | .attr t => (t.types,.oneOf [])
  | .connection _ ts us => (ts,us)
  | .filter _ _ _ => (.oneOf [],.oneOf [])
  | .conj cs | .disj cs => let (a,b) := endTypesOf cs; (.oneOf a,.oneOf b)
  | .negation _ => (.oneOf [],.oneOf [])

def endTypesOf : List Condition → List String × List String
  | [] => ([],[])
  | c::cs =>
    let (a,b) := endTypesOf cs
    match c with
    | .attr t => (t.types.members ++ a,b)
    | c =>
      if isConnected c then
        let (ts,us) := endTypes c
        (ts.members ++ a,us.members ++ b)
      else (a,b)

end

end Condition

end InfraAudit.Policy
