import InfraAudit.Value.Access
import InfraAudit.Template.JsonReader
import InfraAudit.Decimal.Reading

namespace InfraAudit

variable (v : Value)

def truthOfText : Value :=
  match v.text? with
  | some s =>
    if ["true","\"true\"","True","\"True\""].contains s then .bool true
    else if ["false","\"false\"","False","\"False\""].contains s then .bool false
    else v
  | none => v

def truthOf : Value :=
  if v == .int 1 || v == "1" then .bool true
  else if v == .int 0 || v == "0" then .bool false
  else truthOfText v

def Value.toInt (v : Value) : Result Int :=
  match v with
  | .float x => (Decimal.ofFloat? x).elim (.error .overflow) (.ok ·.truncate)
  | v => v.int?.elim (do Decimal.integer (← v.needText)) .ok

def intOf? : Option Int := v.toInt.toOption

def floatOf? : Option Float := v.float?.or (v.text?.bind Decimal.float?)

def amountOf? : Option Decimal.Amount :=
  match v.int? with
  | some n => (Decimal.Binary.ofInt? n).map .finite
  | none => (floatOf? v).map Decimal.Amount.ofFloat

def forceInt : Value := (intOf? v).elim .null (fun n => match v with
  | .bool b => .bool b
  | _ => .int n)

def forceFloat : Value := (floatOf? v).elim .null .float

def forceDict : Value :=
  if v.isDict then v
  else match v with
    | .list (x::_) => if x.isDict then x else .null
    | _ => .null

def documentOf? : Option Value := v.text?.bind fun s => (Json.read s).toOption

/-- A text stands for the document it spells. -/
def spelled? : Option Value := if v.isText then documentOf? v else some v

/-- Single quotes count as double ones. -/
def looselySpelled? : Option Value := v.text?.bind fun s => (Json.read (Text.replace s "'" "\"")).toOption

def policyDocument : Value := if v.isDict then v else (documentOf? v).getD .null

def isJsonObject : Bool := (documentOf? v).any (·.isDict)

def loweredText : String :=
  match v with
  | .bool true => "true"
  | .bool false => "false"
  | v => v.display

def switchOf? (s : String) : Option Bool :=
  let s := Text.lower s
  if ["y","yes","t","true","on","1"].contains s then some true
  else if ["n","no","f","false","off","0"].contains s then some false
  else none

end InfraAudit
