import InfraAudit.Value

namespace InfraAudit.Json

open Char

def isSpace (c : Char) : Bool := c == ' ' || c == '\t' || c == '\n' || c == '\r'

def skipSpace : Nat → List Char → Nat × List Char
  | n,[] => (n,[])
  | n,c :: r => if isSpace c then skipSpace (n+1) r else (n,c::r)

def simpleEscape? : Char → Option Char
  | '"' => some '"'
  | '\\' => some '\\'
  | '/' => some '/'
  | 'b' => some '\x08'
  | 'f' => some '\x0c'
  | 'n' => some '\n'
  | 'r' => some '\r'
  | 't' => some '\t'
  | _ => none

def hexValue? (c : Char) : Option Nat :=
  if c.isDigit then some (c.toNat - 48)
  else if 'a' ≤ c && c ≤ 'f' then some (c.toNat - 87)
  else if 'A' ≤ c && c ≤ 'F' then some (c.toNat - 55)
  else none

variable (cs : List Char)

def hexNumber? : Option Nat :=
  if cs.isEmpty then none
  else cs.foldl (fun acc c => do return 16*(← acc)+(← hexValue? c)) (some 0)

def codeUnit? : Option Nat :=
  if cs.length == 4 then hexNumber? cs else none

def isHighSurrogate (n : Nat) : Bool := 0xd800 ≤ n && n ≤ 0xdbff

def isLowSurrogate (n : Nat) : Bool := 0xdc00 ≤ n && n ≤ 0xdfff

def joinSurrogates (hi lo : Nat) : Nat := 0x10000+(hi - 0xd800)*0x400+(lo - 0xdc00)

def charOf (n : Nat) : Char :=
  if isHighSurrogate n || isLowSurrogate n then ofNat 0xfffd else ofNat n

def ofPoints (points : List Nat) : String := .ofList (points.map charOf)

def intPart? : Option (List Char × List Char) :=
  let (sign,r) := match cs with
    | '-' :: r => (['-'],r)
    | r => ([],r)
  match r with
  | '0' :: r => some (sign ++ ['0'],r)
  | c::r =>
    if c.isDigit then some (sign ++ c :: r.takeWhile isDigit,r.dropWhile isDigit) else none
  | [] => none

def fractionPart : List Char × List Char :=
  match cs with
  | '.' :: c :: r =>
    if c.isDigit then ('.' :: c :: r.takeWhile isDigit,r.dropWhile isDigit) else ([],cs)
  | _ => ([],cs)

def exponentPart : List Char × List Char :=
  match cs with
  | e::r =>
    if e == 'e' || e == 'E' then
      let (sign,r') := match r with
        | '-' :: r' => (['-'],r')
        | '+' :: r' => (['+'],r')
        | r' => ([],r')
      match r' with
      | d::_ =>
        if d.isDigit then (e :: sign ++ r'.takeWhile isDigit,r'.dropWhile isDigit)
        else ([],cs)
      | [] => ([],cs)
    else ([],cs)
  | [] => ([],cs)

def natOf : Nat := cs.foldl (fun n c => 10*n+(c.toNat - 48)) 0

def scaled (negative : Bool) (digits : Nat) (exponent : Int) : Float :=
  let x := if exponent < 0 then Float.ofScientific digits true exponent.natAbs
    else Float.ofScientific digits false exponent.natAbs
  if negative then -x else x

def numberOf (int fraction exponent : List Char) : Value :=
  let negative := int.head? == some '-'
  let digits := if negative then int.drop 1 else int
  if fraction.isEmpty && exponent.isEmpty then
    let n : Int := natOf digits
    .int (if negative then -n else n)
  else
    let e : Int := match exponent.drop 1 with
      | '-' :: r => -(natOf r : Int)
      | '+' :: r | r => natOf r
    let places := fraction.drop 1
    let e := e - places.length
    let m := natOf (digits ++ places)
    if m == 0 then .float (if negative then -0.0 else 0.0)
    else if e > 400 then .float (if negative then -1.0 / 0.0 else 1.0 / 0.0)
    else if e+(digits ++ places).length < -400 then .float (if negative then -0.0 else 0.0)
    else .float (scaled negative m e)

def number? : Option (Value × Nat × List Char) := do
  let (i,r) ← intPart? cs
  let (f,r) := fractionPart r
  let (e,r) := exponentPart r
  return (numberOf i f e,i.length+f.length+e.length,r)

def word? : Option (Value × Nat) :=
  let starts (w : String) : Bool := w.toList.isPrefixOf cs
  if starts "null" then some (.null,4)
  else if starts "true" then some (.bool true,4)
  else if starts "false" then some (.bool false,5)
  else none

def specialWord? : Option (Value × Nat) :=
  let starts (w : String) : Bool := w.toList.isPrefixOf cs
  if starts "NaN" then some (.float (0.0 / 0.0),3)
  else if starts "Infinity" then some (.float (1.0 / 0.0),8)
  else if starts "-Infinity" then some (.float (-1.0 / 0.0),9)
  else none

def scalar? : Option (Value × Nat × List Char) :=
  match word? cs with
  | some (v,n) => some (v,n,cs.drop n)
  | none => match number? cs with
    | some r => some r
    | none => (specialWord? cs).map fun (v,n) => (v,n,cs.drop n)

end InfraAudit.Json
