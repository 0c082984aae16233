import InfraAudit.Template.Node

namespace InfraAudit.Template

open Json

def newlinesFrom : Nat → List Char → List Nat
  | _,[] => []
  | i,c :: r => if c == '\n' then i :: newlinesFrom (i+1) r else newlinesFrom (i+1) r

def newlines (cs : List Char) : Array Nat := (newlinesFrom 0 cs).toArray

def countLoop (index : Array Nat) (pos : Int) (lo hi count : Nat) : Nat :=
  if lo < hi then
    let mid := (lo+(hi - 1)) / 2
    if (index.getD mid 0 : Int) ≤ pos then countLoop index pos (mid+1) hi (mid+1) else countLoop index pos lo mid count
  else count
termination_by hi - lo

def countUpTo (index : Array Nat) (pos : Int) : Nat := countLoop index pos 0 index.size 0

/-- Newline number `line`, counted from one, if some newline is at most `pos`; otherwise -1. A
number of zero or less counts from the last one. -/
def newlineBefore (index : Array Nat) (line : Int) (pos : Int) : Int :=
  if index.isEmpty || countUpTo index pos == 0 then -1
  else
    let i := line - 1
    let i := if i < 0 then i+index.size else i
    index.getD i.toNat 0

structure Source where
  chars : List Char
  newlines : Array Nat
  allowNulls : Bool
  allowRepeats : Bool := false

structure Cursor where
  pos : Nat
  rest : List Char

namespace Source

def ofString (s : String) (allowNulls : Bool) : Source :=
  let cs := s.toList
  {chars := cs, newlines := Template.newlines cs, allowNulls}

variable (src : Source)

def place (pos : Int) : Nat × Int :=
  let before := if pos < 0 then src.chars.take (src.chars.length - pos.natAbs) else src.chars.take pos.toNat
  let breaks := newlinesFrom 0 before
  let last : Int := match breaks.getLast? with
    | some i => i
    | none => -1
  (breaks.length+1,pos - last)

def fault (what : String) (pos : Int) : Fault :=
  let (line,column) := src.place pos
  .unreadableTemplate
    (what ++ ": line " ++ toString line ++ " column " ++ toString column ++ " (char " ++ toString pos ++ ")")

/-- Lines are counted by newlines up to each end; the last is one less as soon as the text has
several. -/
def span (start stop : Nat) : Span :=
  let first := countUpTo src.newlines start
  let offset : Int := if 1 < src.newlines.size then 1 else 0
  let last : Int := countUpTo src.newlines stop - offset
  { start := ⟨first,start - newlineBefore src.newlines first start⟩
    stop := ⟨last,stop - newlineBefore src.newlines last stop⟩ }

end Source

def Cursor.advance (c : Cursor) (n : Nat) : Cursor := ⟨c.pos+n,c.rest.drop n⟩

def Cursor.skipSpace (c : Cursor) : Cursor :=
  let (n,r) := Json.skipSpace 0 c.rest
  ⟨c.pos+n,r⟩

def readText (src : Source) (begin_ : Nat) : Nat → List Nat → Cursor → Result (List Nat × Cursor)
  | 0,_,_ => .error (src.fault "Unterminated string starting at" begin_)
  | fuel+1,acc,⟨pos,rest⟩ =>
    match rest with
    | [] => .error (src.fault "Unterminated string starting at" begin_)
    | '"' :: r => .ok (acc.reverse,⟨pos+1,r⟩)
    | ['\\'] => .error (src.fault "Unterminated string starting at" begin_)
    | '\\' :: 'u' :: r =>
      match codeUnit? (r.take 4) with
      | none => .error (src.fault "Invalid \\uXXXX escape" (pos+1))
      | some n =>
        let r := r.drop 4
        match isHighSurrogate n, r with
        | true,'\\' :: 'u' :: r' =>
          match codeUnit? (r'.take 4) with
          | none => .error (src.fault "Invalid \\uXXXX escape" (pos+7))
          | some m =>
            if isLowSurrogate m then readText src begin_ fuel (joinSurrogates n m :: acc) ⟨pos+12,r'.drop 4⟩
            else readText src begin_ fuel (n::acc) ⟨pos+6,r⟩
        | _,_ => readText src begin_ fuel (n::acc) ⟨pos+6,r⟩
    | '\\' :: c :: r =>
      match simpleEscape? c with
      | some d => readText src begin_ fuel (d.toNat :: acc) ⟨pos+2,r⟩
      | none => .error (src.fault ("Invalid \\escape: " ++ Text.quoted (String.singleton c)) (pos+1))
    | c::r =>
      if c.toNat < 32 then
        .error (src.fault ("Invalid control character " ++ Text.quoted (String.singleton c) ++ " at") (pos+1))
      else readText src begin_ fuel (c.toNat :: acc) ⟨pos+1,r⟩

def replaceKey (pairs : List (Key × Node)) (p : Key × Node) : List (Key × Node) :=
  if pairs.any (·.1.points == p.1.points) then pairs.map fun q => if q.1.points == p.1.points then p else q
  else pairs ++ [p]

/-- Refused if a field is null where that is not allowed or repeats a key; the fault is placed at
`lastKey`. -/
def makeObject (src : Source) (pairs : List (Key × Node)) (span : Span) (lastKey : Nat) : Result Node :=
  let rec go : List (List Nat) → List (Key × Node) → Result Unit
    | _,[] => .ok ()
    | seen,(k,v) :: r =>
      let name := "\"" ++ k.text ++ "\""
      if !src.allowNulls && (match v with | .plain .null => true | _ => false) then
        .error (src.fault ("Null Error " ++ name) lastKey)
      else if !src.allowRepeats && seen.contains k.points then .error (src.fault ("Duplicate found " ++ name) lastKey)
      else go (k.points :: seen) r
  do
    go [] pairs
    return .dict (if src.allowRepeats then pairs.foldl replaceKey [] else pairs) span

mutual

def readNode (src : Source) : Nat → Cursor → Result (Option (Node × Cursor))
  | 0,_ => .error .tooDeep
  | fuel+1,c =>
    match c.rest with
    | [] => .ok none
    | '"' :: r => do
      let (s,c') ← readText src c.pos (r.length+1) [] ⟨c.pos+1,r⟩
      return some (.string s,c')
    | '\x7b' :: r => do return some (← readObject src fuel ⟨c.pos+1,r⟩)
    | '[' :: r => do return some (← readArray src fuel ⟨c.pos+1,r⟩)
    | cs =>
      match scalar? cs with
      | some (v,n,r) => .ok (some (.plain v,⟨c.pos+n,r⟩))
      | none => .ok none

def readArray (src : Source) : Nat → Cursor → Result (Node × Cursor)
  | 0,_ => .error .tooDeep
  | fuel+1,c =>
    let d := c.skipSpace
    match d.rest with
    | ']' :: r => .ok (.list [] (src.span c.pos (d.pos+1)),⟨d.pos+1,r⟩)
    | _ => readElements src c.pos fuel [] d

def readElements (src : Source) (start : Nat) : Nat → List Node → Cursor → Result (Node × Cursor)
  | 0,_,_ => .error .tooDeep
  | fuel+1,acc,c => do
    match ← readNode src fuel c with
    | none => .error .unreadableDocument
    | some (v,c) =>
      let c := c.skipSpace
      match c.rest with
      | ']' :: r => return (.list (v::acc).reverse (src.span start (c.pos+1)),⟨c.pos+1,r⟩)
      | ',' :: _ => readElements src start fuel (v::acc) (c.advance 1).skipSpace
      | _ => .error .unreadableDocument

def readObject (src : Source) : Nat → Cursor → Result (Node × Cursor)
  | 0,_ => .error .tooDeep
  | fuel+1,c =>
    let d := c.skipSpace
    match d.rest with
    | '"' :: _ => readMembers src c.pos fuel [] d
    | '\x7d' :: r => do
      let node ← makeObject src [] (src.span c.pos (d.pos+1)) d.pos
      return (node,⟨d.pos+1,r⟩)
    | _ => .error (src.fault "Expecting property name enclosed in double quotes" d.pos)

def readMembers (src : Source) (start : Nat) : Nat → List (Key × Node) → Cursor → Result (Node × Cursor)
  | 0,_,_ => .error .tooDeep
  | fuel+1,acc,c => do
    let begin_ := c.pos
    let (name,c) ← readText src begin_ (c.rest.length+1) [] (c.advance 1)
    let key : Key := ⟨name,src.span begin_ (begin_+name.length)⟩
    let c := c.skipSpace
    match c.rest with
    | ':' :: _ =>
      match ← readNode src fuel (c.advance 1).skipSpace with
      | none => .error (src.fault "Expecting value" key.span.stop.line)
      | some (v,c) =>
        let acc := (key,v) :: acc
        let c := c.skipSpace
        match c.rest with
        | '\x7d' :: r =>
          let node ← makeObject src acc.reverse (src.span start (c.pos+1)) begin_
          return (node,⟨c.pos+1,r⟩)
        | ',' :: _ =>
          let c := (c.advance 1).skipSpace
          match c.rest with
          | '"' :: _ => readMembers src start fuel acc c
          | _ => .error (src.fault "Expecting property name enclosed in double quotes" c.pos)
        | _ => .error (src.fault "Expecting ',' delimiter" c.pos)
    | _ => .error (src.fault "Expecting ':' delimiter" c.pos)

end

def Source.read (src : Source) : Result Node :=
  match src.chars with
  | '﻿' :: _ => .error .unreadableDocument
  | cs => do
    match ← readNode src (3*cs.length+3) (Cursor.skipSpace ⟨0,cs⟩) with
    | none => .error .unreadableDocument
    | some (node,c) =>
      if c.skipSpace.rest.isEmpty then return node else .error .unreadableDocument

def readJson (s : String) (allowNulls : Bool := true) : Result Node := (Source.ofString s allowNulls).read

end InfraAudit.Template

namespace InfraAudit.Json

def read (s : String) : Result Value :=
  let src := {Template.Source.ofString s true with allowRepeats := true}
  (src.read.map (·.value)).mapError fun _ => .unreadableDocument

end InfraAudit.Json
