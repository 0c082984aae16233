import InfraAudit.Value

namespace InfraAudit

structure LineRange where
  first : Int
  last : Int
  deriving DecidableEq, Repr, Inhabited

abbrev CodeLine := Int × String

def Text.unifyLineEnds (s : String) : String := replace (replace s "\r\n" "\n") "\r" "\n"

namespace CodeLine

def ofText (text : String) : List CodeLine := (Text.linesKeepingEnds text).zipIdx.map fun (s,i) => (Int.ofNat i+1,s)

variable (lines : List CodeLine)

def nth (i : Int) : Result String := do return (← Value.nth lines i).2

def isIdle (s : String) : Bool :=
  match (Text.strip s).toList with
  | [] => true
  | c::_ => c == '#'

def busyUpTo (lines : List CodeLine) : Nat → Int → Result Int
  | 0,n => .ok n
  | fuel+1,n => do if isIdle (← nth lines (n - 1)) then busyUpTo lines fuel (n - 1) else return n

def lastBusy (n : Int) : Result Int := busyUpTo lines (2*lines.length+2) n

def startBraced : Result Bool :=
  match lines.find? fun (_,s) => !(Text.strip s).isEmpty with
  | some (_,s) => .ok (Text.startsWith (Text.strip s) "\x7b")
  | none => .error .outOfRange

def within (r : LineRange) : List CodeLine := Text.sliceList lines (some (r.first - 1)) (some r.last)

def busyRange (r : LineRange) : Result LineRange := do
  return ⟨← lastBusy lines r.first,← lastBusy lines r.last⟩

end CodeLine

end InfraAudit
