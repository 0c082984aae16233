import InfraAudit.Text.Pattern.Reader

namespace InfraAudit.Text

def chunkPattern : Pattern :=
  let blank := "\\t\\n\\x0b\\x0c\\r "
  let letter := "[^\\d\\W]"
  let behindWord := "(?<=[\\w!\"'&.,?])"
  let dashes := "-\x7b2,\x7d"
  .of ("([" ++ blank ++ "]+|" ++ behindWord ++ dashes ++ "(?=\\w)|[^" ++ blank ++ "]+?(?:-(?:(?<=" ++
    letter ++ letter ++ "-)|(?<=" ++ letter ++ "-" ++ letter ++ "-))(?=" ++ letter ++ "-?" ++ letter ++
    ")|(?=[" ++ blank ++ "]|\\Z)|" ++ behindWord ++ "(?=" ++ dashes ++ "\\w)))")

def flattenBlanks (s : String) : String :=
  String.ofList (s.toList.foldl (fun (acc : List Char × Nat) c =>
    if c == '\t' then (List.replicate (8 - acc.2 % 8) ' ' ++ acc.1,acc.2+(8 - acc.2 % 8))
    else if c == '\n' || c == '\r' then (' ' :: acc.1,0)
    else ((if c == '\x0b' || c == '\x0c' then ' ' else c) :: acc.1,acc.2+1)) ([],0)).1.reverse

def chunks (s : String) : List (List Char) :=
  ((chunkPattern.split (flattenBlanks s)).map fun p => (p.getD "").toList).filter (!·.isEmpty)

def isBlankChunk (c : List Char) : Bool := c.all isBlank

def fitting : Nat → List (List Char) → List (List Char) × List (List Char)
  | _,[] => ([],[])
  | room,c :: cs =>
    if c.length ≤ room then
      let (line,rest) := fitting (room - c.length) cs
      (c::line,rest)
    else ([],c::cs)

def cutPlace (c : List Char) (room : Nat) : Nat :=
  match findLast? (String.ofList (c.take room)) "-" with
  | some i => if i > 0 && c.length > room && (c.take i).any (· != '-') then i+1 else room
  | none => room

def fillLines (width : Nat) : Nat → Bool → List (List Char) → List String
  | 0,_,_ | _,_,[] => []
  | fuel+1,started,c :: cs =>
    let pieces := if started && isBlankChunk c then cs else c :: cs
    let (line,rest) := fitting width pieces
    let (line,rest) := match rest with
      | big::more =>
        if big.length > width then
          let cut := cutPlace big (width - (line.map List.length).sum)
          (line ++ [big.take cut],big.drop cut :: more)
        else (line,rest)
      | [] => (line,rest)
    let line := match line.reverse with
      | last::before => if isBlankChunk last then before.reverse else line
      | [] => line
    if line.isEmpty then fillLines width fuel started rest
    else String.ofList line.flatten :: fillLines width fuel true rest

def wrap (s : String) (width : Nat) : List String := fillLines width (2*s.length+16) false (chunks s)

end InfraAudit.Text
