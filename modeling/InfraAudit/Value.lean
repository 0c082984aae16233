import InfraAudit.Text.Basic
import InfraAudit.Decimal.Shortest

/-!
Configuration values. Mappings keep the order of their keys. Equality follows the meaning of numbers, so that `true`, `1` and
`1.0` are equal, and ignores the order of keys.

Causes of failure when a configuration does not have the shape that a rule expects.
-/

namespace InfraAudit

open Text

inductive Fault where
  | missingKey
  | wrongKind
  | noMember
  | noTemplateMember
  | outOfRange
  | badValue
  | exhausted
  | unbound
  | unassigned
  | divisionByZero
  | overflow
  | tooDeep
  | unreadableExpression
  | unreadableDocument
  | unreadableTemplate (message : String)
  | unreadableYaml
  | unreadableToken
  | unreadablePattern
  | unreadableVersion
  | emptyKey
  | ambiguousPath
  | unsupported (message : String)
  | failure (message : String)
  | requirement
  | fileNotFound
  deriving DecidableEq, Repr, Inhabited

def Fault.message? : Fault → Option String
  | .unreadableTemplate m | .unsupported m | .failure m => some m
  | _ => none

abbrev Result (α : Type) := Except Fault α

/-- Changes what a key has; a new key comes last and starts from `d`. -/
def upsert {α β : Type} [BEq α] (k : α) (d : β) (f : β → β) : List (α × β) → List (α × β)
  | [] => [(k,f d)]
  | (k',b)::r => if k' == k then (k',f b) :: r else (k',b) :: upsert k d f r

inductive Value where
  | null
  | bool (b : Bool)
  | int (n : Int)
  | float (x : Float)
  | str (s : String)
  | list (items : List Value)
  | tuple (items : List Value)
  | set (items : List Value)
  | dict (fields : List (String × Value))
  | table (entries : List (Value × Value))
  | element (text : String)
  | thing (kind : String)
  deriving Inhabited

instance : Coe String Value := ⟨.str⟩

instance : Coe Bool Value := ⟨.bool⟩

abbrev Fields := List (String × Value)

abbrev Entries := List (Value × Value)

namespace Fields

variable (fs : Fields)

def get? (k : String) : Option Value := fs.lookup k

def has (k : String) : Bool := (get? fs k).isSome

def insert (k : String) (v : Value) : Fields → Fields
  | [] => [(k,v)]
  | (k',v')::r => if k' == k then (k,v) :: r else (k',v') :: insert k v r

def erase (k : String) (fs : Fields) : Fields := fs.eraseP (·.1 == k)

def update (fs new : Fields) : Fields := new.foldl (fun acc (k,v) => insert k v acc) fs

def ofPairs (ps : List (String × Value)) : Fields := update [] ps

def keys : List String := fs.map Prod.fst

end Fields

namespace Value

def text? : Value → Option String
  | .str s | .element s => some s
  | _ => none

def int? : Value → Option Int
  | .int n => some n
  | .bool b => some (if b then 1 else 0)
  | _ => none

def float? : Value → Option Float
  | .float x => some x
  | v => v.int?.map Float.ofInt

def isNull : Value → Bool
  | .null => true
  | _ => false

def isBool : Value → Bool
  | .bool _ => true
  | _ => false

variable (v : Value)

def isInt : Bool := v.int?.isSome

def isText : Bool := v.text?.isSome

def isList : Value → Bool
  | .list _ => true
  | _ => false

def isTuple : Value → Bool
  | .tuple _ => true
  | _ => false

def isDict : Value → Bool
  | .dict _ | .table _ => true
  | _ => false

def truthy : Value → Bool
  | .null => false
  | .bool b => b
  | .int n => n != 0
  | .float x => x != 0
  | .str s => !s.isEmpty
  | .list xs | .tuple xs | .set xs => !xs.isEmpty
  | .dict fs => !fs.isEmpty
  | .table es => !es.isEmpty
  | .element s => !s.isEmpty
  | .thing _ => true

def falsy : Bool := !v.truthy

def fields : Value → Fields
  | .dict fs => fs
  | _ => []

def items : Value → List Value
  | .list xs => xs
  | _ => []

def eqScalar : Value → Value → Bool
  | .null,.null => true
  | .str a,.str b | .str a,.element b | .element a,.str b | .element a,.element b | .float a,.float b => a == b
  | .float a,b =>
    match b.int? with
    | some n => Decimal.compareFloatInt a n == some .eq
    | none => false
  | a,.float b =>
    match a.int? with
    | some n => Decimal.compareFloatInt b n == some .eq
    | none => false
  | a,b =>
    match a.int?, b.int? with
    | some m,some n => m == n
    | _,_ => false

def findEntry (p : Value → Bool) : Entries → Option Value
  | [] => none
  | (k,v)::r => if p k then some v else findEntry p r

mutual

def eq : Value → Value → Bool
  | .list a,.list b | .tuple a,.tuple b => eqItems a b
  | .set a,.set b => a.length == b.length && allIn a b
  | .dict a,.dict b => a.length == b.length && eqFields a b
  | .table a,.table b => a.length == b.length && eqEntries a b
  | a,b => eqScalar a b

def eqItems : List Value → List Value → Bool
  | [],[] => true
  | x::xs,y :: ys => eq x y && eqItems xs ys
  | _,_ => false

def allIn : List Value → List Value → Bool
  | [],_ => true
  | x::xs,ys => ys.any (fun y => eq x y) && allIn xs ys

def eqFields : List (String × Value) → List (String × Value) → Bool
  | [],_ => true
  | (k,v)::r,other =>
    (match other.lookup k with
      | some w => eq v w
      | none => false) && eqFields r other

def eqEntries : Entries → Entries → Bool
  | [],_ => true
  | (k,v)::r,other =>
    (match findEntry (fun k' => eq k k') other with
      | some w => eq v w
      | none => false) && eqEntries r other

end

instance : BEq Value := ⟨eq⟩

theorem beq_str (a b : String) : (Value.str a == Value.str b) = (a == b) := by
  show Value.eq (.str a) (.str b) = _
  simp only [Value.eq,Value.eqScalar]

def elem (vs : List Value) : Bool := vs.any (fun w => eq v w)

def hashable : Value → Bool
  | .list _ | .set _ | .dict _ | .table _ => false
  | .tuple xs => hashableAll xs
  | _ => true
where
  hashableAll : List Value → Bool
    | [] => true
    | x::xs => hashable x && hashableAll xs

def insertEntry (k v : Value) : Entries → Entries
  | [] => [(k,v)]
  | (k',v')::r => if eq k' k then (k',v) :: r else (k',v') :: insertEntry k v r

def insertAll (new es : Entries) : Entries := new.foldl (fun acc (k,v) => insertEntry k v acc) es

def textKeys? : Entries → Option Fields
  | [] => some []
  | (.str k,v) :: r => (textKeys? r).map ((k,v) :: ·)
  | _ => none

def ofEntries (es : Entries) : Value :=
  match textKeys? es with
  | some fs => .dict fs
  | none => .table es

def entries : Value → Entries
  | .dict fs => fs.map fun (k,v) => (.str k,v)
  | .table es => es
  | _ => []

def ofItems (xs : List Value) : Value := .set (xs.foldl (fun acc x => if elem x acc then acc else acc ++ [x]) [])

def optionalText (s : Option String) : Value := (s.map Value.str).getD .null

def ofStrings (xs : List String) : Value := .list (xs.map .str)

def get? (k : String) : Option Value :=
  match v with
  | .dict fs => fs.lookup k
  | .table es => findEntry (fun k' => eq k' (.str k)) es
  | _ => none

def getD (v : Value) (k : String) : Value := (v.get? k).getD .null

def set! (k : String) (w : Value) : Value :=
  match v with
  | .dict fs => .dict (Fields.insert k w fs)
  | .table es => .table (insertEntry (.str k) w es)
  | v => v

def nesting : Value → Nat
  | .dict fs => nestingFields fs+1
  | .list xs | .tuple xs => nestingItems xs+1
  | .table es => nestingEntries es+1
  | _ => 0
where
  nestingFields : List (String × Value) → Nat
    | [] => 0
    | (_,v)::r => max (nesting v) (nestingFields r)
  nestingItems : List Value → Nat
    | [] => 0
    | v::r => max (nesting v) (nestingItems r)
  nestingEntries : Entries → Nat
    | [] => 0
    | (_,v)::r => max (nesting v) (nestingEntries r)

end Value

def Fields.textAt (fs : Fields) (k : String) : String := ((fs.lookup k).bind Value.text?).getD ""

def Text.hexDigits (width n : Nat) : List Char := Decimal.padZeros width (Nat.toDigits 16 n)

def Text.escapeChar (quote c : Char) : List Char :=
  if c == quote || c == '\\' then ['\\',c]
  else if c == '\n' then ['\\','n']
  else if c == '\r' then ['\\','r']
  else if c == '\t' then ['\\','t']
  else if isPrintable c then [c]
  else
    let n := c.toNat
    if n < 0x100 then '\\' :: 'x' :: hexDigits 2 n
    else if n < 0x10000 then '\\' :: 'u' :: hexDigits 4 n
    else '\\' :: 'U' :: hexDigits 8 n

def Text.quoteFor (cs : List Char) : Char :=
  if cs.contains '\'' && !cs.contains '"' then '"' else '\''

def Text.quoted (s : String) : String :=
  let cs := s.toList
  let q := quoteFor cs
  String.ofList (q :: cs.flatMap (escapeChar q) ++ [q])

namespace Value

def literalScalar : Value → String
  | .null => "None"
  | .bool b => if b then "True" else "False"
  | .int n => toString n
  | .float x => Decimal.text x
  | .str s | .element s => quoted s
  | .thing k => "<" ++ k ++ ">"
  | _ => ""

mutual

def literal : Value → String
  | .list xs => "[" ++ join ", " (literals xs) ++ "]"
  | .tuple [x] => "(" ++ literal x ++ ",)"
  | .tuple xs => "(" ++ join ", " (literals xs) ++ ")"
  | .set [] => "set()"
  | .set xs => "\x7b" ++ join ", " (literals xs) ++ "\x7d"
  | .dict fs => "\x7b" ++ join ", " (fieldLiterals fs) ++ "\x7d"
  | .table es => "\x7b" ++ join ", " (entryLiterals es) ++ "\x7d"
  | v => literalScalar v

def literals : List Value → List String
  | [] => []
  | x::xs => literal x :: literals xs

def fieldLiterals : Fields → List String
  | [] => []
  | (k,v)::r => (quoted k ++ ": " ++ literal v) :: fieldLiterals r

def entryLiterals : Entries → List String
  | [] => []
  | (k,v)::r => (literal k ++ ": " ++ literal v) :: entryLiterals r

end

/-- A negative position counts from the end. -/
def nth {α : Type} (xs : List α) (i : Int) : Result α :=
  let j := if i < 0 then i+xs.length else i
  if j < 0 then .error .outOfRange
  else xs[j.toNat]?.elim (.error .outOfRange) .ok

def display (v : Value) : String :=
  match v.text? with
  | some s => s
  | none => v.literal

end Value

end InfraAudit
