import InfraAudit.Expr.Coercion
import InfraAudit.Terraform.VariableUse

namespace InfraAudit.Policy

open Text

inductive Operator where
  | any
  | present
  | absent
  | equals
  | notEquals
  | matching
  | notMatching
  | contains
  | notContains
  | startsWith
  | notStartsWith
  | endsWith
  | notEndsWith
  | within
  | subset
  | notSubset
  | greater
  | atLeast
  | less
  | atMost
  | isEmpty
  | isNotEmpty
  | lengthEquals
  | lengthNotEquals
  | lengthGreater
  | lengthAtLeast
  | lengthLess
  | lengthAtMost
  | isTrue
  | isFalse
  deriving DecidableEq, Repr

def Operator.ofName? : String → Option Operator
  | "equals" => some .equals
  | "not_equals" => some .notEquals
  | "regex_match" => some .matching
  | "not_regex_match" => some .notMatching
  | "exists" => some .present
  | "any" => some .any
  | "contains" => some .contains
  | "not_exists" => some .absent
  | "within" => some .within
  | "not_contains" => some .notContains
  | "starting_with" => some .startsWith
  | "not_starting_with" => some .notStartsWith
  | "ending_with" => some .endsWith
  | "not_ending_with" => some .notEndsWith
  | "greater_than" => some .greater
  | "greater_than_or_equal" => some .atLeast
  | "less_than" => some .less
  | "less_than_or_equal" => some .atMost
  | "subset" => some .subset
  | "not_subset" => some .notSubset
  | "is_empty" => some .isEmpty
  | "is_not_empty" => some .isNotEmpty
  | "length_equals" => some .lengthEquals
  | "length_not_equals" => some .lengthNotEquals
  | "length_greater_than" => some .lengthGreater
  | "length_greater_than_or_equal" => some .lengthAtLeast
  | "length_less_than" => some .lengthLess
  | "length_less_than_or_equal" => some .lengthAtMost
  | "is_true" => some .isTrue
  | "is_false" => some .isFalse
  | _ => none

variable (block : Fields) (a b : Value) (v : Value)

def attributeOf : Option String → Value
  | some k => (block.lookup k).getD .null
  | none => .null

def isUnrendered : Result Bool := do
  match block.lookup "source_" with
  | none => throw .missingKey
  | some source => return source == "Terraform" && Terraform.isDependent v

def spelledValue : Value := (looselySpelled? v).getD v

def isCollection : Value → Bool
  | .str _ | .list _ | .set _ | .dict _ | .table _ => true
  | _ => false

def anyHolds (x : Value) : List Value → Result Bool
  | [] => .ok false
  | v::vs => if isCollection v then do
      if ← v.holds x then return true else anyHolds x vs
    else anyHolds x vs

def containsValue (v x : Value) : Result Bool := do
  let v := spelledValue v
  if v.isDict then
    if ← v.holds x then return true
    anyHolds x (v.entries.map Prod.snd)
  else v.holds x

def sameText : Bool := lower a.display == lower b.display

/-- Truth values by their names in any case, lists and mappings by what they hold, all else by its
text. -/
def sameValue : Bool :=
  match a, b with
  | .bool _,_ | _,.bool _ => sameText a b
  | .list _,.list _ => a == b
  | _,_ => if a.isDict && b.isDict then a == b else a.display == b.display

def isEqual : Result Bool := do
  if b != "" then
    if ← isUnrendered block a then return true
  return sameValue a b

def compareAmounts (accepts : Ordering → Bool) (texts : String → String → Bool) : Bool :=
  match amountOf? a, amountOf? b with
  | some x,some y => if x.isZero || y.isZero then texts a.display b.display else (x.compare? y).any accepts
  | _,_ => texts a.display b.display

def isGreater : Bool := !a.isNull && compareAmounts a b (· == .gt) fun s t => lt t s

def isAtLeast : Bool := !a.isNull && compareAmounts a b (· != .lt) fun s t => le t s

def membersOf : Result (List Value) := do
  let xs ← match v with
    | .list xs | .set xs => pure xs
    | v => if v.isDict then pure (v.entries.map Prod.fst) else pure [v]
  if xs.all Value.hashable then return xs else throw .wrongKind

def isSubset : Result Bool := do
  let xs ← membersOf a
  let ys ← b.elems
  if !ys.all Value.hashable then throw .wrongKind
  return xs.all (·.elem ys)

def length? : Option Nat := v.size.toOption

def isMatching : Result Bool :=
  match Text.Pattern.read b.display with
  | .ok p => .ok (p.matches? a.display)
  | .error .unreadablePattern => .ok false
  | .error f => .error f

def lengthIs (rel : Int → Int → Bool) : Result Bool := do
  if a.isNull then return false
  if ← isUnrendered block a then return true
  return (match intOf? b, length? a with
    | some n,some m => rel m n
    | _,_ => false)

def unlessUnrendered (a : Value) (holds : Result Bool) : Result Bool := do
  if ← isUnrendered block a then return true else holds

def isTrueValue (a : Value) : Result Bool :=
  if a.isNull then .ok false else unlessUnrendered block a (.ok a.isTrue)

def isEmptyValue (a : Value) : Result Bool := unlessUnrendered block a (.ok (length? a == some 0))

def startsWithText : Result Bool :=
  unlessUnrendered block a (match a.text? with
    | some s => do return startsWith s (← b.needText)
    | none => .ok false)

def endsWithText : Result Bool :=
  unlessUnrendered block a (match a.text? with
    | some s => do return endsWith s (← b.needText)
    | none => .ok false)

def negated (r : Result Bool) : Result Bool := do return !(← r)

def Operator.holds (op : Operator) (block : Fields) (key : Option String) (b : Value) : Result Bool :=
  let a := attributeOf block key
  match op with
  | .any => .ok true
  | .present => .ok !a.isNull
  | .absent => .ok a.isNull
  | .equals => isEqual block a b
  | .notEquals => unlessUnrendered block a (negated (isEqual block a b))
  | .matching => isMatching a b
  | .notMatching => negated (isMatching a b)
  | .contains => containsValue (soughtIn block key) b
  | .notContains => negated (containsValue (soughtIn block key) b)
  | .startsWith => startsWithText block a b
  | .notStartsWith => negated (startsWithText block a b)
  | .endsWith => endsWithText block a b
  | .notEndsWith => negated (endsWithText block a b)
  | .within => unlessUnrendered block a (b.holds a)
  | .subset => isSubset a b
  | .notSubset => negated (isSubset a b)
  | .greater => unlessUnrendered block a (.ok (isGreater a b))
  | .atLeast => unlessUnrendered block a (.ok (isAtLeast a b))
  | .less => if a.isNull then .ok false else unlessUnrendered block a (.ok !(isAtLeast a b))
  | .atMost => if a.isNull then .ok false else unlessUnrendered block a (.ok !(isGreater a b))
  | .isEmpty => isEmptyValue block a
  | .isNotEmpty => negated (isEmptyValue block a)
  | .lengthEquals => lengthIs block a b fun m n => m == n
  | .lengthNotEquals => negated (lengthIs block a b fun m n => m == n)
  | .lengthGreater => lengthIs block a b fun m n => m > n
  | .lengthAtLeast => lengthIs block a b fun m n => m ≥ n
  | .lengthLess => lengthIs block a b fun m n => m < n
  | .lengthAtMost => lengthIs block a b fun m n => m ≤ n
  | .isTrue => isTrueValue block a
  | .isFalse => negated (isTrueValue block a)
where
  soughtIn (block : Fields) (key : Option String) : Value := (key.bind fun k => block.lookup k).getD "\x7b\x7d"

end InfraAudit.Policy
