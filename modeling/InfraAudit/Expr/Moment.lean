import InfraAudit.Text.Pattern.Reader
import InfraAudit.Decimal.Reading

namespace InfraAudit.Expr

open Text

structure Moment where
  day : Int
  micros : Int
  offset : Option Int

namespace Moment

def isLeap (y : Int) : Bool := y % 4 == 0 && (y % 100 != 0 || y % 400 == 0)

def monthLength (y : Int) (m : Nat) : Nat :=
  if m == 2 then (if isLeap y then 29 else 28)
  else if [4,6,9,11].contains m then 30 else 31

def daysBeforeYear (y : Int) : Int :=
  let p := y - 1
  p*365+p / 4 - p / 100+p / 400

def daysBeforeMonth (y : Int) (m : Nat) : Nat := (List.range (m - 1)).foldl (fun days i => days+monthLength y (i+1)) 0

def ofDate (y m d : Nat) : Int := daysBeforeYear y+daysBeforeMonth y m+d - 1

def monthOf (y : Int) : Nat → Nat → Nat → Nat × Nat
  | 0,m,d => (m,d)
  | fuel+1,m,d =>
    let len := monthLength y m
    if d < len then (m,d) else monthOf y fuel (m+1) (d - len)

variable (t : Moment)

def date : Int × Nat × Nat :=
  let y0 := t.day / 366+1
  let y := (List.range 30).foldl
    (fun (y : Int) _ => if daysBeforeYear (y+1) ≤ t.day then y+1 else y) y0
  let (m,d) := monthOf y 12 1 (t.day - daysBeforeYear y).toNat
  (y,m,d+1)

def seconds : Nat := (t.micros / 1000000).toNat

def hour : Nat := t.seconds / 3600

def minute : Nat := t.seconds / 60 % 60

def second : Nat := t.seconds % 60

def weekday : Nat := (t.day % 7).toNat

def microsPerDay : Int := 86400000000

def lastDay : Int := daysBeforeYear 10000 - 1

def add (micros : Int) : Result Moment :=
  let total := t.day*microsPerDay+t.micros+micros
  let day := total / microsPerDay
  if day < 0 || lastDay < day then .error .overflow
  else .ok {t with day := day, micros := total % microsPerDay}

def two (cs : List Char) : Option (Nat × List Char) :=
  match cs with
  | a::b :: r => if a.isDigit && b.isDigit then some (Json.natOf [a,b],r) else none
  | _ => none

def twoAfter (mark : Char) (marked : Bool) (r : List Char) : Option (Nat × List Char) :=
  if (r.head? == some mark) == marked then two (if marked then r.tail else r) else none

def readClock (cs : List Char) : Option Int := do
  let (h,r) ← two cs
  let colons := r.head? == some ':'
  let step := fun (r : List Char) => if r.isEmpty then some (0,[]) else twoAfter ':' colons r
  let (m,r) ← step r
  let (s,r) ← step r
  let micros ← match r with
    | [] => some 0
    | c::r =>
      if (c == '.' || c == ',') && !r.isEmpty && r.all Char.isDigit then
        some (Json.natOf ((r ++ Decimal.zeros 5).take 6))
      else none
  if h < 24 && m < 60 && s < 60 then return ((h*3600+m*60+s : Nat) : Int)*1000000+micros
  else none

def readDate (cs : List Char) : Option (Int × List Char) := do
  let ds := cs.take 4
  if !(ds.length == 4 && ds.all Char.isDigit) then none
  let y := Json.natOf ds
  let dashed := cs[4]? == some '-'
  let (m,r) ← twoAfter '-' dashed (cs.drop 4)
  let (d,r) ← twoAfter '-' dashed r
  if 1 ≤ y && 1 ≤ m && m ≤ 12 && 1 ≤ d && d ≤ monthLength y m then return (ofDate y m d,r) else none

def read (s : String) : Option Moment := do
  let (day,r) ← readDate s.toList
  match r with
  | [] => return ⟨day,0,none⟩
  | _::r =>
    let clock := r.takeWhile fun c => c != '+' && c != '-'
    let micros ← readClock clock
    match r.drop clock.length with
    | [] => return ⟨day,micros,none⟩
    | c::r =>
      let secs := (← readClock r) / 1000000
      return ⟨day,micros,some (if c == '-' then -secs else secs)⟩

def monthNames :=
  ["January","February","March","April","May","June","July","August","September","October","November","December"]

def dayNames := ["Monday","Tuesday","Wednesday","Thursday","Friday","Saturday","Sunday"]

def twoDigits (n : Nat) : String := padLeft (toString n) 2 '0'

def hour12 : Nat := if t.hour % 12 == 0 then 12 else t.hour % 12

def half : String := if t.hour < 12 then "AM" else "PM"

def zone : String :=
  match t.offset with
  | none => ""
  | some o =>
    let a := o.natAbs
    let base := (if o < 0 then "-" else "+") ++ twoDigits (a / 3600) ++ twoDigits (a / 60 % 60)
    if a % 60 == 0 then base else base ++ twoDigits (a % 60)

def layoutField? (bare : Bool) (c : Char) : Option String :=
  let num := fun (n : Nat) => if bare then toString n else twoDigits n
  let (y,m,d) := t.date
  let month := monthNames.getD (m - 1) ""
  let day := dayNames.getD t.weekday ""
  [('Y',toString y),('y',num (y % 100).toNat),('m',num m),('d',num d),('B',month),('b',take month 3),('A',day),
    ('a',take day 3),('H',num t.hour),('I',num t.hour12),('M',num t.minute),('S',num t.second),('p',t.half),
    ('z',t.zone),('%',"%")].lookup c

def layout (t : Moment) : List Char → List Char
  | '%' :: '-' :: c :: r => (t.layoutField? true c).elim ['%','-',c] (·.toList) ++ layout t r
  | '%' :: c :: r => (t.layoutField? false c).elim ['%',c] (·.toList) ++ layout t r
  | c::r => c :: layout t r
  | [] => []

def timestamp : String := String.ofList (t.layout "%Y-%m-%dT%H:%M:%SZ".toList)

def codes : List (String × String) :=
  [("YYYY","%Y"),("YY","%y"),("MMMM","%B"),("MMM","%b"),("MM","%m"),("M","%-m"),
    ("DD","%d"),("D","%-d"),("EEEE","%A"),("EEE","%a"),("HH","%I"),("H","%-I"),
    ("hh","%H"),("h","%-H"),("mm","%M"),("m","%-M"),("ss","%S"),("s","%-S"),("AA","%p"),
    ("ZZZZZ","%z"),("ZZZZ","%z"),("ZZZ","%z"),("Z ","%z")]

def codeText (run : String) : String :=
  if run == "aa" then lower t.half
  else if run == "ZZZZZ" then take t.zone 3 ++ ":" ++ drop t.zone 3
  else if run == "ZZZ" then (if t.zone == "+0000" then "UTC" else t.zone)
  else if run == "Z" then (if t.zone == "+0000" then "Z" else t.zone)
  else (codes.lookup run).getD run

structure LayoutState where
  out : String := ""
  run : String := ""
  quoted : Bool := false
  last : Option Char := none

/-- Text between single quotes is kept, a doubled quote is one quote. -/
def layoutStep (st : LayoutState) (c : Char) : LayoutState :=
  let flush := fun (st : LayoutState) => {st with out := st.out ++ t.codeText st.run, run := ""}
  let st' :=
    if c == '\'' || st.quoted then
      let st := flush st
      if c == '\'' then
        let st := if st.last == some '\'' then {st with out := st.out ++ "'"} else st
        {st with quoted := !st.quoted}
      else {st with out := st.out.push c}
    else
      let st := if st.last != some c && st.last.isSome then flush st else st
      {st with run := st.run.push c}
  {st' with last := some c}

def format (spec : String) : String :=
  let st := spec.toList.foldl (layoutStep t) {}
  String.ofList (t.layout (st.out ++ t.codeText st.run).toList)

def amountPattern := Text.Pattern.of "(\\d*\\.*\\d+)"

def durationMicros (amount : Float) (perUnit : Float) : Result Int :=
  match Decimal.ofFloat? (amount*perUnit) with
  | none => .error .overflow
  | some b =>
    let (n,d) := b.fraction
    let q := (Decimal.roundDiv n.natAbs d : Int)
    .ok (if n < 0 then -q else q)

def unitMicros (u : String) : Option Float :=
  match u with
  | "h" => some 3600000000.0
  | "m" => some 60000000.0
  | "s" => some 1000000.0
  | "ms" => some 1000.0
  | "us" | "µs" => some 1.0
  | _ => none

def addParts (negative : Bool) : Moment → List String → Result Moment
  | t,[] => .ok t
  | t,amount :: unit :: r =>
    match Decimal.float? amount with
    | none => .error .badValue
    | some x => do
      let micros ← if unit == "ns" then durationMicros (x / 1000.0) 1.0
        else match unitMicros unit with
          | some f => durationMicros x f
          | none => .ok 0
      let t ← t.add (if negative then -micros else micros)
      addParts negative t r
  | _,[amount] => .error (if (Decimal.float? amount).isSome then .outOfRange else .badValue)

def addDuration (d : String) : Result Moment :=
  match d.toList with
  | [] => .error .outOfRange
  | c::r =>
    let negative := c == '-'
    let d := if negative then String.ofList r else d
    addParts negative t (((amountPattern.split d).map (·.getD "")).filter (!·.isEmpty))

end Moment

def momentOf (s : String) : Result Moment := (Moment.read (replace s "Z" "+00:00")).elim (.error .badValue) .ok

end InfraAudit.Expr
