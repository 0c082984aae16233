import InfraAudit.Expr.Syntax
import InfraAudit.Expr.Coercion

namespace InfraAudit.Expr

open Value Nat Decimal

variable (op : BinaryOp) (a b : Int) (x y : Float)

def truncatedRemainder : Float :=
  match ofFloat? x, ofFloat? y with
  | some a,some b =>
    let e := min a.exponent b.exponent
    let m := a.mantissa*Nat.pow 2 (a.exponent - e).toNat
    let n := b.mantissa*Nat.pow 2 (b.exponent - e).toNat
    let r := Float.scaleB (Float.ofNat (m % n)) e
    if a.negative then -r else r
  | some _,none => if y.isNaN then y else x
  | _,_ => 0.0 / 0.0

def floorDivMod : Float × Float :=
  let r := truncatedRemainder x y
  let q := (x - r) / y
  let (q,r) := if r != 0 then
      (if (y < 0) != (r < 0) then (q - 1,r+y) else (q,r))
    else (q,if y < 0 then -0.0 else 0.0)
  let f := if q != 0 then
      let f := q.floor
      if q - f > 0.5 then f+1 else f
    else (if (x < 0) != (y < 0) then -0.0 else 0.0)
  (f,r)

def repeatList {α : Type} (n : Int) (xs : List α) : List α :=
  if xs.isEmpty then [] else (List.replicate n.toNat xs).flatten

/-- The count is no machine word or the result too long to hold. -/
def tooMany (n : Int) (size : Nat) : Bool := n > 9223372036854775807 || n*size > 1000000

def unlessZero (zero : Bool) (quotient : Value) : Result Value := if zero then .error .divisionByZero else .ok quotient

/-- A negative exponent gives a double. Results beyond all use are refused. -/
def powerInts : Result Value :=
  if b < 0 then unlessZero (a == 0) (.float (Float.pow (Float.ofInt a) (Float.ofInt b)))
  else if a.natAbs > 1 && b*(log2 a.natAbs+1) > 100000 then .error .overflow
  else .ok (.int (Int.pow a b.toNat))

def powerFloats : Result Value :=
  if x == 0 && y < 0 then .error .divisionByZero
  else if x < 0 && y != y.floor && y.isFinite then .ok (.thing "complex")
  else
    let r := Float.pow x y
    if r.isInf && x.isFinite && y.isFinite then .error .overflow else .ok (.float r)

def floatOp : Result Value :=
  match op with
  | .add => .ok (.float (x+y))
  | .sub => .ok (.float (x - y))
  | .mul => .ok (.float (x*y))
  | .div => unlessZero (y == 0) (.float (x / y))
  | .floorDiv => unlessZero (y == 0) (.float (floorDivMod x y).1)
  | .mod => unlessZero (y == 0) (.float (floorDivMod x y).2)
  | .pow => powerFloats x y
  | _ => .error .wrongKind

/-- A negative integer is the complement of a natural number with an endless run of ones. -/
def commonBits : Int :=
  match a, b with
  | .ofNat m,.ofNat n => .ofNat (land m n)
  | .ofNat m,.negSucc n => .ofNat (xor m (land m n))
  | .negSucc m,.ofNat n => .ofNat (xor n (land m n))
  | .negSucc m,.negSucc n => .negSucc (lor m n)

def unitedBits : Int := -(commonBits (-a - 1) (-b - 1)) - 1

def differingBits : Int :=
  match a, b with
  | .ofNat m,.ofNat n => .ofNat (xor m n)
  | .ofNat m,.negSucc n | .negSucc m,.ofNat n => .negSucc (xor m n)
  | .negSucc m,.negSucc n => .ofNat (xor m n)

def intOp : Result Value :=
  match op with
  | .add => .ok (.int (a+b))
  | .sub => .ok (.int (a - b))
  | .mul => .ok (.int (a*b))
  | .div => unlessZero (b == 0) (.float (Float.ofInt a / Float.ofInt b))
  | .floorDiv => unlessZero (b == 0) (.int (Int.fdiv a b))
  | .mod => unlessZero (b == 0) (.int (Int.fmod a b))
  | .pow => powerInts a b
  | .shiftLeft =>
    if b < 0 then .error .badValue
    else if b > 100000 then .error .overflow
    else .ok (.int (a*Int.pow 2 b.toNat))
  | .shiftRight =>
    if b < 0 then .error .badValue
    else if b > 100000 then .ok (.int (if a < 0 then -1 else 0))
    else .ok (.int (Int.fdiv a (Int.pow 2 b.toNat)))
  | .bitAnd => .ok (.int (commonBits a b))
  | .bitOr => .ok (.int (unitedBits a b))
  | .bitXor => .ok (.int (differingBits a b))
  | .matMul => .error .wrongKind

def times {α : Type} (wrap : List α → Value) (xs : List α) (n : Value) : Result Value := do
  let k ← n.needInt
  if tooMany k xs.length then .error .overflow else return wrap (repeatList k xs)

def times? : Value → Option (Value → Result Value)
  | .list xs => some (times .list xs)
  | .tuple xs => some (times .tuple xs)
  | .str s | .element s => some (times (.str <| String.ofList ·) s.toList)
  | _ => none

def collectionOp (a b : Value) : Result Value :=
  match op, a, b with
  | .add,.str x,_ | .add,.element x,_ => do return .str (x ++ (← b.needText))
  | .add,.list x,.list y => .ok (.list (x ++ y))
  | .add,.tuple x,.tuple y => .ok (.tuple (x ++ y))
  | .bitOr,.set x,.set y => .ok (.ofItems (x ++ y))
  | .bitAnd,.set x,.set y => .ok (.set (x.filter (elem · y)))
  | .bitXor,.set x,.set y => .ok (.set (x.filter (fun v => !elem v y) ++ y.filter (fun v => !elem v x)))
  | .sub,.set x,.set y => .ok (.set (x.filter (fun v => !elem v y)))
  | .bitOr,a,b =>
    if a.isDict && b.isDict then .ok (.ofEntries (insertAll b.entries a.entries)) else .error .wrongKind
  | .mul,a,b => match times? a, times? b with
    | some f,_ => f b
    | none,some f => f a
    | none,none => .error .wrongKind
  | _,_,_ => .error .wrongKind

def boolOp (a b : Bool) : Option Value :=
  match op with
  | .bitAnd => some (.bool (a && b))
  | .bitOr => some (.bool (a || b))
  | .bitXor => some (.bool (a != b))
  | _ => none

def plainOp (a b : Value) : Result Value :=
  match a.int?, b.int? with
  | some m,some n => intOp op m n
  | _,_ =>
    match a.float?, b.float? with
    | some x,some y => floatOp op x y
    | _,_ => collectionOp op a b

def binary (a b : Value) : Result Value :=
  match a, b with
  | .bool x,.bool y => (boolOp op x y).elim (plainOp op a b) .ok
  | _,_ => plainOp op a b

def unary (op : UnaryOp) (a : Value) : Result Value :=
  match op with
  | .not => .ok (.bool a.falsy)
  | .plus => match a with
    | .float x => .ok (.float x)
    | a => do return .int (← a.needInt)
  | .minus => match a with
    | .float x => .ok (.float (-x))
    | .thing "complex" => .ok a
    | a => do return .int (-(← a.needInt))
  | .invert => do return .int (-(← a.needInt) - 1)

def same (a b : Value) : Bool :=
  match a, b with
  | .null,.null => true
  | .bool x,.bool y | .int x,.int y | .str x,.str y => x == y
  | .tuple [],.tuple [] => true
  | _,_ => false

def isWithin (xs ys : List Value) : Bool := xs.all (elem · ys)

def compareValues (op : CompareOp) (a b : Value) : Result Bool :=
  match op, a, b with
  | .eq,_,_ => .ok (a == b)
  | .ne,_,_ => .ok (!(a == b))
  | .lt,.set xs,.set ys | .gt,.set ys,.set xs => .ok (isWithin xs ys && !isWithin ys xs)
  | .le,.set xs,.set ys | .ge,.set ys,.set xs => .ok (isWithin xs ys)
  | .lt,_,_ => a.lt b
  | .le,_,_ => a.le b
  | .gt,_,_ => a.gt b
  | .ge,_,_ => a.ge b
  | .isIn,_,_ => b.holds a
  | .notIn,_,_ => do return !(← b.holds a)
  | .same,_,_ => .ok (same a b)
  | .notSame,_,_ => .ok (!same a b)

end InfraAudit.Expr
