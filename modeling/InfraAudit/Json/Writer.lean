import InfraAudit.Json.Reader

namespace InfraAudit.Json

def unitEscape (n : Nat) : List Char := '\\' :: 'u' :: Text.hexDigits 4 n

def escapeChar (c : Char) : List Char :=
  match c with
  | '"' => ['\\','"']
  | '\\' => ['\\','\\']
  | '\n' => ['\\','n']
  | '\r' => ['\\','r']
  | '\t' => ['\\','t']
  | '\x08' => ['\\','b']
  | '\x0c' => ['\\','f']
  | c =>
    let n := c.toNat
    if 32 ≤ n && n < 127 then [c]
    else if n < 0x10000 then unitEscape n
    else unitEscape (0xd800+(n - 0x10000) / 0x400) ++ unitEscape (0xdc00+(n - 0x10000) % 0x400)

def quote (s : String) : String := String.ofList ('"' :: s.toList.flatMap escapeChar ++ ['"'])

structure Layout where
  indent : Option Nat := none
  sortKeys : Bool := false

def floatText (x : Float) : String :=
  if x.isNaN then "NaN" else if x.isInf then (if x > 0 then "Infinity" else "-Infinity")
  else Decimal.text x

def keyText : Value → Result String
  | .str s | .element s => .ok s
  | .bool b => .ok (if b then "true" else "false")
  | .null => .ok "null"
  | .int n => .ok (toString n)
  | .float x => .ok (floatText x)
  | _ => .error .wrongKind

def newline (n : Nat) : String := "\n" ++ String.ofList (List.replicate n ' ')

def bracketed (l : Layout) (level : Nat) (opening closing : String) (parts : List String) : String :=
  if parts.isEmpty then opening ++ closing
  else match l.indent with
    | none => opening ++ Text.join ", " parts ++ closing
    | some w =>
      let sep := newline (w*(level+1))
      opening ++ sep ++ Text.join ("," ++ sep) parts ++ newline (w*level) ++ closing

def object (l : Layout) (level : Nat) (ps : List (String × String)) : String :=
  bracketed l level "\x7b" "\x7d" ((if l.sortKeys then Text.sortOn Prod.fst ps else ps).map fun (k,v) => quote k ++ ": " ++ v)

mutual

def write (l : Layout) (level : Nat) : Value → Result String
  | .null => .ok "null"
  | .bool b => .ok (if b then "true" else "false")
  | .int n => .ok (toString n)
  | .float x => .ok (floatText x)
  | .str s | .element s => .ok (quote s)
  | .list xs | .tuple xs => do return bracketed l level "[" "]" (← writeItems l (level+1) xs)
  | .dict fs => do return object l level (← writeFields l (level+1) fs)
  | .table es => do return object l level (← writeEntries l (level+1) es)
  | .set _ | .thing _ => .error .wrongKind

def writeItems (l : Layout) (level : Nat) : List Value → Result (List String)
  | [] => .ok []
  | x::xs => do return (← write l level x) :: (← writeItems l level xs)

def writeFields (l : Layout) (level : Nat) : Fields → Result (List (String × String))
  | [] => .ok []
  | (k,v)::r => do return (k,← write l level v) :: (← writeFields l level r)

def writeEntries (l : Layout) (level : Nat) : Entries → Result (List (String × String))
  | [] => .ok []
  | (k,v)::r => do
    let k ← keyText k
    return (k,← write l level v) :: (← writeEntries l level r)

end

def line (v : Value) : Result String := write {} 0 v

end InfraAudit.Json
