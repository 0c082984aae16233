import InfraAudit.Expr.Coercion

namespace InfraAudit.Expr

open Decimal

structure Directive where
  left : Bool := false
  plus : Bool := false
  space : Bool := false
  zero : Bool := false
  alternate : Bool := false
  width : Option Int := none
  precision : Option Int := none
  letter : Char := 's'

structure Supply where
  rest : List Value
  mapping : Option Value
  /-- Unused values are an error, unless the value is a collection of its own. -/
  strict : Bool

def Supply.next (s : Supply) : Result (Value × Supply) :=
  match s.rest with
  | v::r => .ok (v,{s with rest := r})
  | [] => .error .wrongKind

def readFlagChars (d : Directive) : List Char → Directive × List Char
  | '-' :: r => readFlagChars {d with left := true} r
  | '+' :: r => readFlagChars {d with plus := true} r
  | ' ' :: r => readFlagChars {d with space := true} r
  | '0' :: r => readFlagChars {d with zero := true} r
  | '#' :: r => readFlagChars {d with alternate := true} r
  | r => (d,r)

def readSize (s : Supply) (cs : List Char) : Result (Option Int × Supply × List Char) :=
  match cs with
  | '*' :: r => do
    let (v,s) ← s.next
    let some n := v.int? | .error .wrongKind
    return (some n,s,r)
  | cs =>
    let ds := cs.takeWhile Char.isDigit
    .ok (if ds.isEmpty then none else some (Json.natOf ds),s,cs.drop ds.length)

variable (d : Directive)

def pad (signed : List Char) (body : List Char) (numeric : Bool) : List Char :=
  let width := d.width.getD 0
  let missing := width.natAbs - (signed.length+body.length)
  if d.left || width < 0 then signed ++ body ++ List.replicate missing ' '
  else if d.zero && numeric then signed ++ List.replicate missing '0' ++ body
  else List.replicate missing ' ' ++ signed ++ body

def signFor (negative : Bool) : List Char :=
  if negative then ['-'] else if d.plus then ['+'] else if d.space then [' '] else []

def intBody (ds : List Char) : List Char :=
  match d.precision with
  | some p => List.replicate (p.toNat - ds.length) '0' ++ ds
  | none => ds

def needInt (v : Value) (truncating : Bool) : Result Int :=
  match v with
  | .float _ => if truncating then v.toInt else .error .wrongKind
  | v => v.needInt

def raised (cs : List Char) : List Char := if d.letter.isUpper then cs.map Char.toUpper else cs

def writeInt (base : Nat) (lead : String) (n : Int) : List Char :=
  let lead := if d.alternate then raised d lead.toList else []
  pad d (signFor d (n < 0) ++ lead) (intBody d (raised d (Nat.toDigits base n.natAbs))) true

def writeFloat (v : Value) : Result (List Char) := do
  let some x := v.float? | .error .wrongKind
  let (negative,body) : Bool × List Char := match ofFloat? x with
    | none => (x < 0,(if x.isNaN then "nan" else "inf").toList)
    | some b =>
      let n := b.fraction.1.natAbs
      let p := (d.precision.getD 6).toNat
      (b.negative,match d.letter.toLower with
        | 'f' => fixed n b.fraction.2 p
        | 'e' => scientific n b.fraction.2 p
        | _ => general n b.fraction.2 p d.alternate)
  return pad {d with zero := d.zero && x.isFinite} (signFor d negative) (raised d body) true

def cutTo (s : String) : List Char :=
  match d.precision with
  | some p => s.toList.take p.toNat
  | none => s.toList

def writeDirective (v : Value) : Result (List Char) :=
  match d.letter with
  | 's' => .ok (pad d [] (cutTo d v.display) false)
  | 'r' | 'a' => .ok (pad d [] (cutTo d v.literal) false)
  | 'c' =>
    match v with
    | .str s => if s.length == 1 then .ok (pad d [] s.toList false) else .error .wrongKind
    | v => do
      let n ← needInt v false
      if 0 ≤ n && n < 0x110000 then return pad d [] [Char.ofNat n.toNat] false else .error .overflow
  | 'd' | 'i' | 'u' => do return writeInt d 10 "" (← needInt v true)
  | 'o' => do return writeInt d 8 "0o" (← needInt v false)
  | 'x' | 'X' => do return writeInt d 16 "0x" (← needInt v false)
  | _ => writeFloat d v

def fillFrom : Nat → Supply → List Char → List Char → Result (List Char × Supply)
  | 0,s,acc,_ => .ok (acc,s)
  | fuel+1,s,acc,cs =>
    match cs with
    | [] => .ok (acc.reverse,s)
    | '%' :: r => do
      let (s,r) ← match r with
        | '(' :: r =>
          let name := r.takeWhile (· != ')')
          match r.drop name.length, s.mapping with
          | [],_ => .error .badValue
          | _,none => .error .wrongKind
          | _::r,some m => do pure ({s with rest := [← m.field (String.ofList name)], strict := false},r)
        | r => pure (s,r)
      let (d,r) := readFlagChars {} r
      let (w,s,r) ← readSize s r
      let (p,s,r) ← match r with
        | '.' :: r => do
          let (p,s,r) ← readSize s r
          pure (some (p.getD 0),s,r)
        | r => pure (none,s,r)
      match if r.head?.any "hlL".toList.contains then r.tail else r with
      | [] => .error .badValue
      | '%' :: r => fillFrom fuel s ('%' :: acc) r
      | c::r =>
        let d := {d with width := w, precision := p, letter := c}
        if !"sracdiuoxXeEfFgG".toList.contains c then .error .badValue
        let (v,s) ← s.next
        let out ← writeDirective d v
        fillFrom fuel s (out.reverse ++ acc) r
    | c::r => fillFrom fuel s (c::acc) r

def fill (s : String) (v : Value) : Result String := do
  let supply : Supply := match v with
    | .tuple xs => ⟨xs,none,true⟩
    | v => ⟨[v],if v.isDict then some v else none,!(v.isDict || v.isList)⟩
  let cs := s.toList
  let (out,supply) ← fillFrom (cs.length+1) supply [] cs
  if supply.strict && !supply.rest.isEmpty then .error .wrongKind else return String.ofList out

end InfraAudit.Expr
