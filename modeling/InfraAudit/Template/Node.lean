import InfraAudit.Json.Reader

namespace InfraAudit.Template

structure Mark where
  line : Int
  column : Int
  deriving DecidableEq, Repr, Inhabited

structure Span where
  start : Mark
  stop : Mark
  deriving DecidableEq, Repr, Inhabited

/-- A text is kept by its code points, since an escape may give half of a pair alone. -/
structure Key where
  points : List Nat
  span : Span
  deriving DecidableEq, Repr, Inhabited

namespace Key

def ofText (s : String) (span : Span) : Key := ⟨s.toList.map Char.toNat,span⟩

def text (k : Key) : String := Json.ofPoints k.points

end Key

inductive Node where
  | plain (value : Value)
  | string (points : List Nat)
  | text (s : String) (span : Span)
  | list (items : List Node) (span : Span)
  | dict (fields : List (Key × Node)) (span : Span)
  deriving Inhabited

namespace Node

mutual

def value : Node → Value
  | .plain v => v
  | .string points => .str (Json.ofPoints points)
  | .text s _ => .str s
  | .list xs _ => .list (values xs)
  | .dict fs _ => .dict (fieldValues fs)

def values : List Node → List Value
  | [] => []
  | x::xs => value x :: values xs

def fieldValues : List (Key × Node) → Fields
  | [] => []
  | (k,v)::r => (k.text,value v) :: fieldValues r

end

def fields : Node → List (Key × Node)
  | .dict fs _ => fs
  | _ => []

def get? (n : Node) (k : String) : Option Node := (n.fields.find? fun (k',_) => k'.text == k).map Prod.snd

end Node

end InfraAudit.Template
