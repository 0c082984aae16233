namespace InfraAudit.Decimal

open Nat

structure Binary where
  negative : Bool
  mantissa : Nat
  exponent : Int

def ofBits (bits : Nat) : Binary :=
  let low : Nat := bits % Nat.pow 2 52
  let biased : Nat := bits / Nat.pow 2 52 % Nat.pow 2 11
  let negative := bits / Nat.pow 2 63 == 1
  if biased == 0 then ⟨negative,low,-1074⟩ else ⟨negative,low+Nat.pow 2 52,(biased : Int) - 1075⟩

def ofFloat? (x : Float) : Option Binary :=
  if x.isFinite then some (ofBits x.toBits.toNat) else none

def roundDiv (num den : Nat) : Nat :=
  let q := num / den
  let twice := 2*(num % den)
  if den < twice || twice == den && q % 2 == 1 then q+1 else q

namespace Binary

variable (b : Binary)

def fraction : Int × Nat :=
  let sign : Int := if b.negative then -1 else 1
  (sign*(b.mantissa*Nat.pow 2 b.exponent.toNat : Nat),Nat.pow 2 (-b.exponent).toNat)

def truncate : Int := b.fraction.1.tdiv b.fraction.2

def floor : Int := b.fraction.1.fdiv b.fraction.2

def ceil : Int := -(-b.fraction.1).fdiv b.fraction.2

def compareInt (i : Int) : Ordering := Ord.compare b.fraction.1 (i*b.fraction.2)

def compare (a b : Binary) : Ordering := Ord.compare (a.fraction.1*b.fraction.2) (b.fraction.1*a.fraction.2)

/-- The nearest number of 53 binary digits, of two the even one, unless it is too large. -/
def ofInt? (i : Int) : Option Binary :=
  let e := log2 i.natAbs - 52
  let q := roundDiv i.natAbs (Nat.pow 2 e)
  if q*Nat.pow 2 e < Nat.pow 2 1024 then some ⟨i < 0,q,e⟩ else none

end Binary

def compareFloatInt (x : Float) (i : Int) : Option Ordering :=
  match ofFloat? x with
  | some b => some (b.compareInt i)
  | none => if x.isNaN then none else some (if x > 0 then .gt else .lt)

def compareFloats (x y : Float) : Option Ordering :=
  if x < y then some .lt else if x == y then some .eq else if x > y then some .gt else none

/-- A number, or one that is infinite or undefined. -/
inductive Amount where
  | finite (b : Binary)
  | other (x : Float)

namespace Amount

def ofFloat (x : Float) : Amount := (ofFloat? x).elim (.other x) .finite

def isZero : Amount → Bool
  | .finite b => b.mantissa == 0
  | .other _ => false

def compare? : Amount → Amount → Option Ordering
  | .finite a,.finite b => some (a.compare b)
  | .finite _,.other y => compareFloats 0 y
  | .other x,.finite _ => compareFloats x 0
  | .other x,.other y => compareFloats x y

end Amount

/-!
### Shortest decimals

The first grid of `d`-digit decimals, for growing `d`, with a neighbour of the value inside the rounding interval gives the
digits, and of two neighbours the nearer one is taken.
-/

structure Interval where
  low : Nat
  value : Nat
  high : Nat
  denominator : Nat
  closed : Bool

def interval (m : Nat) (q : Int) : Interval :=
  let up := Nat.pow 2 q.toNat
  let narrowBelow := m == Nat.pow 2 52 && q != -1074
  { low := (4*m - (if narrowBelow then 1 else 2))*up, value := 4*m*up, high := (4*m+2)*up
    denominator := 4*Nat.pow 2 (-q).toNat, closed := m % 2 == 0 }

def Interval.holds (i : Interval) (n d : Nat) : Bool :=
  if i.closed then i.low*d ≤ n*i.denominator && n*i.denominator ≤ i.high*d
  else i.low*d < n*i.denominator && n*i.denominator < i.high*d

def magnitudeFrom (n d : Nat) : Nat → Int → Int
  | 0,k => k
  | fuel+1,k =>
    if n*Nat.pow 10 (-k).toNat < d*Nat.pow 10 k.toNat then k else magnitudeFrom n d fuel (k+1)

def magnitude (n d : Nat) : Int := magnitudeFrom n d 8 ((log2 n - log2 d : Int)*3 / 10 - 2)

/-- The neighbour on the grid of multiples of `10 ^ scale` that reads back. -/
def onGrid (i : Interval) (scale : Int) : Option Nat :=
  let up := Nat.pow 10 scale.toNat
  let down := Nat.pow 10 (-scale).toNat
  let num := i.value*down
  let den := i.denominator*up
  let g := num / den
  let lowOk := g != 0 && i.holds (g*up) down
  let highOk := i.holds ((g+1)*up) down
  if lowOk && highOk then some (roundDiv num den) else if lowOk then some g else if highOk then some (g+1) else none

def search (i : Interval) (k : Int) : Nat → Nat → Nat × Int
  | 0,d => (i.value / i.denominator,k - d)
  | fuel+1,d =>
    match onGrid i (k - d) with
    | some n => (n,k - d)
    | none => search i k fuel (d+1)

def shortest (m : Nat) (q : Int) : List Char × Int :=
  let i := interval m q
  let (n,scale) := search i (magnitude i.value i.denominator) 18 1
  let cs := toDigits 10 n
  ((cs.reverse.dropWhile (· == '0')).reverse,cs.length+scale)

def zeros (n : Nat) : List Char := List.replicate n '0'

def padZeros (w : Nat) (cs : List Char) : List Char := zeros (w - cs.length) ++ cs

def exponentText (e : Int) : List Char := 'e' :: (if e < 0 then '-' else '+') :: padZeros 2 (toDigits 10 e.natAbs)

def write (cs : List Char) (point : Int) : List Char :=
  if -3 ≤ point && point ≤ 16 then
    if point ≤ 0 then '0' :: '.' :: (zeros (-point).toNat ++ cs)
    else
      let p := point.toNat
      if cs.length ≤ p then cs ++ zeros (p - cs.length) ++ ['.','0'] else cs.take p ++ '.' :: cs.drop p
  else
    (match cs with
      | c::d::r => c :: '.' :: d :: r
      | cs => cs) ++ exponentText (point - 1)

def text (x : Float) : String :=
  match ofFloat? x with
  | none => if x.isNaN then "nan" else if x > 0 then "inf" else "-inf"
  | some b =>
    let sign := if b.negative then "-" else ""
    if b.mantissa == 0 then sign ++ "0.0"
    else
      let (cs,point) := shortest b.mantissa b.exponent
      sign ++ String.ofList (write cs point)

def withPlaces (n places : Nat) : List Char :=
  let ds := padZeros (places+1) (toDigits 10 n)
  let k := ds.length - places
  if places == 0 then ds else ds.take k ++ '.' :: ds.drop k

variable (num den places : Nat)

def fixed : List Char := withPlaces (roundDiv (num*Nat.pow 10 places) den) places

def roundedDigits : Nat × Int :=
  if num == 0 then (0,0)
  else
    let e := magnitude num den - 1
    let shift : Int := places - e
    let n := roundDiv (num*Nat.pow 10 shift.toNat) (den*Nat.pow 10 (-shift).toNat)
    if n == Nat.pow 10 (places+1) then (Nat.pow 10 places,e+1) else (n,e)

def scientific : List Char :=
  let (n,e) := roundedDigits num den places
  withPlaces n places ++ exponentText e

def dropTrailingZeros (cs : List Char) : List Char :=
  if cs.contains '.' then
    (match cs.reverse.dropWhile (· == '0') with
      | '.' :: r | r => r).reverse
  else cs

def general (num den digits : Nat) (keepZeros : Bool) : List Char :=
  let p := max digits 1
  let trim := fun cs => if keepZeros then cs else dropTrailingZeros cs
  let (n,e) := roundedDigits num den (p - 1)
  if -4 ≤ e && e < p then trim (fixed num den ((p : Int) - 1 - e).toNat)
  else trim (withPlaces n (p - 1)) ++ exponentText e

end InfraAudit.Decimal
