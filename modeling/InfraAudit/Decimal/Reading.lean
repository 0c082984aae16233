import InfraAudit.Json.Reader

namespace InfraAudit.Decimal

def splitSign (cs : List Char) : Bool × List Char :=
  match cs with
  | '-' :: r => (true,r)
  | '+' :: r | r => (false,r)

def dropUnderscores : Bool → List Char → Option (List Char)
  | afterDigit,[] => if afterDigit then some [] else none
  | afterDigit,c :: r =>
    if c == '_' then (if afterDigit then dropUnderscores false r else none)
    else (dropUnderscores true r).map (c :: ·)

def digitValue? (c : Char) : Option Nat :=
  if c.isDigit then some (c.toNat - 48)
  else
    let d := c.toLower
    if 'a' ≤ d && d ≤ 'z' then some (d.toNat - 87) else none

def natOfDigits? (base : Nat) (cs : List Char) : Option Nat :=
  cs.foldl (fun acc c => do
    let n ← acc
    let d ← digitValue? c
    if d < base then return base*n+d else none) (some 0)

def announcedBase? (cs : List Char) : Option (Nat × List Char) :=
  match cs with
  | '0' :: c :: r =>
    match c.toLower with
    | 'x' => some (16,r)
    | 'o' => some (8,r)
    | 'b' => some (2,r)
    | _ => none
  | _ => none

def intOfText? (s : String) (base : Nat) : Option Int := do
  let cs := (Text.strip s).toList.map Text.plainDigit
  let (negative,cs) := splitSign cs
  let (base,cs) ← match announcedBase? cs with
    | some (b,r) =>
      let r := match r with
        | '_' :: r | r => r
      if base == b || base == 0 then some (b,r) else some (base,cs)
    | none =>
      if base == 0 then (if cs.head? == some '0' && cs.any (fun c => c != '0' && c != '_') then none else some (10,cs))
      else some (base,cs)
  let ds ← dropUnderscores false cs
  let n ← natOfDigits? base ds
  return if negative then -(n : Int) else n

def int? (s : String) : Option Int := intOfText? s 10

def integer (s : String) : Result Int := (int? s).elim (.error .badValue) .ok

def float? (s : String) : Option Float :=
  let cs := (Text.strip s).toList.map Text.plainDigit
  let (negative,cs) := splitSign cs
  let sign := fun (x : Float) => if negative then -x else x
  match Text.lower (String.ofList cs) with
  | "inf" | "infinity" => some (sign (1.0 / 0.0))
  | "nan" => some (0.0 / 0.0)
  | _ => do
    let isDigit := fun (c : Char) => c.isDigit || c == '_'
    let int := cs.takeWhile isDigit
    let r := cs.dropWhile isDigit
    let (fraction,r) := match r with
      | '.' :: r => (r.takeWhile isDigit,r.dropWhile isDigit)
      | r => ([],r)
    let (exponent,r) ← match r with
      | [] => some ([],[])
      | e::r =>
        if e == 'e' || e == 'E' then
          let (neg,r) := splitSign r
          let ds := r.takeWhile isDigit
          if ds.isEmpty then none
          else do
            let ds ← dropUnderscores false ds
            some ('e' :: (if neg then '-' else '+') :: ds,r.dropWhile isDigit)
        else none
    if !r.isEmpty || (int.isEmpty && fraction.isEmpty) then none
    else do
      let int ← if int.isEmpty then some ['0'] else dropUnderscores false int
      let fraction ← if fraction.isEmpty then some [] else dropUnderscores false fraction
      match Json.numberOf int ('.' :: fraction) exponent with
      | .float x => some (sign x)
      | .int n => some (sign (Float.ofInt n))
      | _ => none

end InfraAudit.Decimal
