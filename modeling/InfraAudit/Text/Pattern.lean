import InfraAudit.Value

/-!
Search patterns and the backtracking matcher. Alternatives are tried from left to right, greedy repetitions from the longest,
and the first way to match wins.
-/

namespace InfraAudit.Text

open String

inductive ClassItem where
  | single (c : Char)
  | range (a b : Char)
  | digit (negated : Bool)
  | word (negated : Bool)
  | blank (negated : Bool)
  deriving DecidableEq, Repr

inductive Greed where
  | greedy | lazy | possessive
  deriving DecidableEq, Repr

inductive Pat where
  | empty
  | char (c : Char) (anyCase : Bool)
  | any (newline : Bool)
  | cls (negated : Bool) (items : List ClassItem) (anyCase : Bool)
  | seq (a b : Pat)
  | alt (a b : Pat)
  | rep (p : Pat) (least : Nat) (most : Option Nat) (greed : Greed)
  | group (number : Nat) (p : Pat)
  | again (number : Nat) (anyCase : Bool)
  | lineStart (eachLine : Bool)
  | lineEnd (eachLine : Bool)
  | textStart
  | textEnd
  | boundary (negated : Bool)
  | ahead (negated : Bool) (p : Pat)
  | behind (negated : Bool) (width : Nat) (p : Pat)
  | atomic (p : Pat)
  | ifGroup (number : Nat) (yes no : Pat)
  deriving Repr, Inhabited

structure Pattern where
  tree : Pat
  groups : Nat
  names : List (String × Nat)
  deriving Inhabited

def ClassItem.holds (c : Char) : ClassItem → Bool
  | .single d => c == d
  | .range a b => a ≤ c && c ≤ b
  | .digit n => n != isDecimal c
  | .word n => n != isWord c
  | .blank n => n != isBlank c

def caseForms (c : Char) : List Char := c :: lowerChar c :: upperChars c

def classHolds (negated : Bool) (items : List ClassItem) (anyCase : Bool) (c : Char) : Bool :=
  let hit := if anyCase then (caseForms c).any (fun d => items.any (·.holds d))
    else items.any (·.holds c)
  negated != hit

def Pat.oneChar? : Pat → Option (Char → Bool)
  | .char c anyCase => some fun d => if anyCase then lowerChar c == lowerChar d else c == d
  | .any newline => some fun d => newline || d != '\n'
  | .cls n items anyCase => some (classHolds n items anyCase)
  | _ => none

def Pat.width? : Pat → Option Nat
  | .char _ _ | .any _ | .cls _ _ _ => some 1
  | .seq a b => do return (← a.width?)+(← b.width?)
  | .alt a b => do
    let x ← a.width?
    let y ← b.width?
    if x == y then return x else none
  | .rep p n (some m) _ => do if n == m then return n*(← p.width?) else none
  | .rep _ _ none _ => none
  | .group _ p => p.width?
  | .again _ _ => none
  | .atomic p => p.width?
  | .ifGroup _ a b => do
    let x ← a.width?
    let y ← b.width?
    if x == y then return x else none
  | _ => some 0

def Pat.weight : Pat → Nat
  | .seq a b | .alt a b => a.weight+b.weight+1
  | .rep p n m _ => (p.weight+1)*(max n (m.getD 0)+1)+2
  | .group _ p | .ahead _ p | .behind _ _ p | .atomic p => p.weight+1
  | .ifGroup _ a b => a.weight+b.weight+1
  | _ => 1

abbrev Spans := Array (Option (Nat × Nat))

abbrev Cont := Nat → Spans → Option (Nat × Spans)

def runLength (cs : Array Char) (p : Char → Bool) : Nat → Nat → Nat
  | 0,_ => 0
  | limit+1,i =>
    match cs[i]? with
    | some c => if p c then runLength cs p limit (i+1)+1 else 0
    | none => 0

def longestFirst (k : Cont) (spans : Spans) (i least : Nat) : Nat → Option (Nat × Spans)
  | 0 => if least == 0 then k i spans else none
  | n+1 =>
    if n+1 < least then none
    else match k (i+n+1) spans with
      | some r => some r
      | none => longestFirst k spans i least n

def shortestFirst (k : Cont) (spans : Spans) (i : Nat) (n : Nat) : Nat → Option (Nat × Spans)
  | 0 => k (i+n) spans
  | more+1 =>
    match k (i+n) spans with
    | some r => some r
    | none => shortestFirst k spans i (n+1) more

def atWordBoundary (cs : Array Char) (i : Nat) : Bool :=
  let before := i != 0 && (cs[i - 1]?).elim false isWord
  let after := (cs[i]?).elim false isWord
  before != after

def sameText (cs : Array Char) (anyCase : Bool) (a b : Nat) : Nat → Bool
  | 0 => true
  | n+1 =>
    match cs[a]?, cs[b]? with
    | some x,some y => (if anyCase then lowerChar x == lowerChar y else x == y) && sameText cs anyCase (a+1) (b+1) n
    | _,_ => false

mutual

def Pat.run (cs : Array Char) : Nat → Pat → Nat → Spans → Cont → Option (Nat × Spans)
  | 0,_,_,_,_ => none
  | fuel+1,p,i,spans,k =>
    match p with
    | .empty => k i spans
    | .seq a b => a.run cs fuel i spans fun j spans => b.run cs fuel j spans k
    | .alt a b =>
      match a.run cs fuel i spans k with
      | some r => some r
      | none => b.run cs fuel i spans k
    | .group n q => q.run cs fuel i spans fun j spans => k j (spans.setIfInBounds n (some (i,j)))
    | .again n anyCase =>
      match spans.getD n none with
      | some (a,b) =>
        if i+(b - a) ≤ cs.size && sameText cs anyCase a i (b - a) then k (i+(b - a)) spans else none
      | none => none
    | .lineStart eachLine =>
      if i == 0 || (eachLine && cs[i - 1]? == some '\n') then k i spans else none
    | .lineEnd eachLine =>
      if i == cs.size || (i+1 == cs.size && cs[i]? == some '\n') ||
          (eachLine && cs[i]? == some '\n') then k i spans else none
    | .textStart => if i == 0 then k i spans else none
    | .textEnd => if i == cs.size then k i spans else none
    | .boundary negated => if atWordBoundary cs i != negated then k i spans else none
    | .ahead negated q =>
      match q.run cs fuel i spans (fun j spans => some (j,spans)), negated with
      | some (_,spans),false | none,true => k i spans
      | _,_ => none
    | .behind negated w q =>
      let found := if w ≤ i then q.run cs fuel (i - w) spans (fun j spans => if j == i then some (j,spans) else none)
        else none
      match found, negated with
      | some (_,spans),false | none,true => k i spans
      | _,_ => none
    | .atomic q =>
      match q.run cs fuel i spans (fun j spans => some (j,spans)) with
      | some (j,spans) => k j spans
      | none => none
    | .ifGroup n a b =>
      if (spans.getD n none).isSome then a.run cs fuel i spans k else b.run cs fuel i spans k
    | .rep q least most greed =>
      match q.oneChar? with
      | some accepts =>
        let limit := match most with
          | some m => min m (cs.size - i)
          | none => cs.size - i
        match greed with
        | .greedy => longestFirst k spans i least (runLength cs accepts limit i)
        | .possessive =>
          let n := runLength cs accepts limit i
          if least ≤ n then k (i+n) spans else none
        | .lazy =>
          let n := runLength cs accepts limit i
          if least ≤ n then shortestFirst k spans i least (n - least) else none
      | none =>
        match greed with
        | .possessive =>
          match q.repeat cs fuel least most true i spans (fun j spans => some (j,spans)) with
          | some (j,spans) => k j spans
          | none => none
        | .greedy => q.repeat cs fuel least most true i spans k
        | .lazy => q.repeat cs fuel least most false i spans k
    | p =>
      match p.oneChar?, cs[i]? with
      | some accepts,some c => if accepts c then k (i+1) spans else none
      | _,_ => none

def Pat.repeat (cs : Array Char) (q : Pat) : Nat → Nat → Option Nat → Bool → Nat → Spans → Cont → Option (Nat × Spans)
  | 0,_,_,_,_,_,_ => none
  | fuel+1,least,most,greedy,i,spans,k =>
    if most == some 0 then k i spans
    else
      let fewer := most.map (· - 1)
      match least with
      | n+1 => q.run cs fuel i spans fun j spans => q.repeat cs fuel n fewer greedy j spans k
      | 0 =>
        let more := fun (_ : Unit) => q.run cs fuel i spans fun j spans =>
          if j == i then none else q.repeat cs fuel 0 fewer greedy j spans k
        if greedy then
          match more () with
          | some r => some r
          | none => k i spans
        else
          match k i spans with
          | some r => some r
          | none => more ()

end

structure Found where
  text : Array Char
  spans : Spans
  names : List (String × Nat)

namespace Found

variable (m : Found)

def start : Nat := ((m.spans.getD 0 none).map Prod.fst).getD 0

def stop : Nat := ((m.spans.getD 0 none).map Prod.snd).getD 0

def group? (n : Nat) : Option String := (m.spans.getD n none).map fun (a,b) => ofList (m.text.extract a b).toList

def whole : String := (m.group? 0).getD ""

def named? (name : String) : Option String := do m.group? (← m.names.lookup name)

def groups : List (Option String) := (List.range (m.spans.size - 1)).map fun i => m.group? (i+1)

end Found

namespace Pattern

variable (p : Pattern) (s : String)

def fuel (cs : Array Char) : Nat := (p.tree.weight+2)*(cs.size+2)+16

def matchWith (cs : Array Char) (i : Nat) (accept : Nat → Bool) : Option Found :=
  let spans : Spans := Array.replicate (p.groups+1) none
  match p.tree.run cs (p.fuel cs) i spans (fun j spans => if accept j then some (j,spans) else none) with
  | some (j,spans) => some ⟨cs,spans.setIfInBounds 0 (some (i,j)),p.names⟩
  | none => none

def searchWith (p : Pattern) (cs : Array Char) (accept : Nat → Nat → Bool) : Nat → Nat → Option Found
  | i,0 => p.matchWith cs i (accept i)
  | i,n+1 =>
    match p.matchWith cs i (accept i) with
    | some m => some m
    | none => searchWith p cs accept (i+1) n

def matchStart? : Option Found := p.matchWith s.toList.toArray 0 fun _ => true

def matchFull? : Option Found :=
  let cs := s.toList.toArray
  p.matchWith cs 0 fun j => j == cs.size

def search? : Option Found :=
  let cs := s.toList.toArray
  p.searchWith cs (fun _ _ => true) 0 cs.size

def matches? : Bool := (p.matchStart? s).isSome

def occursIn : Bool := (p.search? s).isSome

/-- From left to right without overlap. After an empty match the next one may not be empty at the
same place. -/
def findFrom (p : Pattern) (cs : Array Char) : Nat → Nat → Option Nat → List Found
  | 0,_,_ => []
  | fuel+1,i,barred =>
    if cs.size < i then []
    else match p.searchWith cs (fun _ j => some j != barred) i (cs.size - i) with
      | none => []
      | some m => m :: findFrom p cs fuel m.stop (if m.stop == m.start then some m.stop else none)

def findAll : List Found :=
  let cs := s.toList.toArray
  p.findFrom cs (2*cs.size+2) 0 none

def replaceWith (f : Found → String) : String :=
  let cs := s.toList.toArray
  let step := fun (acc : String × Nat) (m : Found) =>
    (acc.1 ++ ofList (cs.extract acc.2 m.start).toList ++ f m,m.stop)
  let (out,last) := (p.findAll s).foldl step ("",0)
  out ++ ofList (cs.extract last cs.size).toList

def replace (s new : String) : String := p.replaceWith s fun _ => new

def split : List (Option String) :=
  let cs := s.toList.toArray
  let step := fun (acc : List (Option String) × Nat) (m : Found) =>
    (acc.1 ++ some (ofList (cs.extract acc.2 m.start).toList) :: m.groups,m.stop)
  let (out,last) := (p.findAll s).foldl step ([],0)
  out ++ [some (ofList (cs.extract last cs.size).toList)]

end Pattern

end InfraAudit.Text
