import InfraAudit.Terraform.VariableUse
import InfraAudit.Expr.Eval

namespace InfraAudit.Terraform

open InfraAudit.Expr Text Text.Pattern

def longestEvaluated : Nat := 10000

variable (s : String) (v : Value)

def evaluateText : Result Datum := do
  if contains s "__" then return .data (.str s)
  match ← Expr.evaluate s with
  | .data (.str t) => return .data (.str (replace t "\x00" "\\0"))
  | d => return d

/-- Only texts are expressions, and collections that hold a double underscore stand for themselves.
-/
def evaluateValue : Result Datum :=
  match v.text? with
  | some s => evaluateText s
  | none => do if ← v.holds "__" then return .data v else .error .wrongKind

def tryEvaluate : Datum :=
  match evaluateValue v with
  | .ok d => d
  | .error _ => (evaluateText ("\"" ++ v.display ++ "\"")).toOption.getD (.data v)

structure BracketPair where
  start : Nat
  stop : Nat
  deriving DecidableEq, Repr

def closedPairs (opening closing : Char) : Nat → List Nat → List Char → List BracketPair
  | _,_,[] => []
  | i,unmatched,c :: r =>
    if c == opening then closedPairs opening closing (i+1) (i::unmatched) r
    else if c == closing then
      match unmatched with
      | j::unmatched => ⟨j,i⟩ :: closedPairs opening closing (i+1) unmatched r
      | [] => closedPairs opening closing (i+1) [] r
    else closedPairs opening closing (i+1) unmatched r

def bracketPairs (opening closing : Char) : List BracketPair :=
  ((closedPairs opening closing 0 [] s.toList).filter fun p => p.start+1 < p.stop).mergeSort
    fun a b => a.start ≤ b.start

def sub (a b : Nat) : String := String.ofList ((s.toList.take b).drop a)

def stripDoubleQuotes : String := if startsWith s "\"" && endsWith s "\"" then slice s (some 1) (some (-1)) else s

def colonsInMaps : String :=
  if contains s "=" then
    (bracketPairs s '\x7b' '\x7d').foldl (fun s p =>
      let part := sub s p.start (p.stop+1)
      replace s part (replace part "=" ":")) s
  else s

def onlySpaces : Bool := s.toList.all (· == ' ')

/-- The first access to the map at `curly` among the index brackets from number `k` on, with the
text after it and the number of the last bracket looked at. -/
def accessMap (curly : BracketPair) (squares : Array BracketPair) : Nat → Nat → Nat → String → String × Nat
  | 0,_,last,s => (s,last)
  | fuel+1,k,last,s =>
    match squares[k]? with
    | none => (s,last)
    | some sq =>
      if curly.stop < sq.start && (sq.start == curly.stop+1 || onlySpaces (sub s (curly.stop+1) sq.start)) then
        let whole := sub s curly.start (sq.stop+1)
        let key := sub s (sq.start+1) sq.stop
        let access := if !startsWith key "\"" && !endsWith key "\"" then
            replace whole ("[" ++ key ++ "]") ("[\"" ++ key ++ "\"]")
          else whole
        let v := (tryEvaluate (.str access)).value
        if v.truthy then (replace s whole v.display,k)
        else accessMap curly squares fuel (k+1) k s
      else accessMap curly squares fuel (k+1) k s

def evaluateMap : String :=
  let curlies := bracketPairs s '\x7b' '\x7d'
  let s := colonsInMaps s
  let squares := (bracketPairs s '[' ']').toArray
  (curlies.foldl (fun (acc : String × Nat) c => accessMap c squares (squares.size+1) acc.2 acc.2 acc.1) (s,0)).1

def listAccesses : Option BracketPair → List BracketPair → String → String
  | _,[],s => s
  | previous,p :: ps,s =>
    let s := match previous with
      | some q =>
        if (p.start == q.stop+1 || onlySpaces (sub s (q.stop+1) p.start)) &&
            isNonemptyOf isNumericLike (sub s (p.start+1) p.stop) then
          let whole := sub s q.start (p.stop+1)
          let v := (tryEvaluate (.str whole)).value
          if v.truthy then replace s whole v.display else s
        else s
      | none => s
    listAccesses (some p) ps s

def evaluateListAccess : String := listAccesses none (bracketPairs s '[' ']') s

def evaluateJsonTypes : Value :=
  match v with
  | .str s =>
    if startsWith s "jsonencode(" then .str (replace (replace (replace s "true" "True") "false" "False") "null" "None")
    else v
  | v => v

def convertLike (a b : Value) : Result Value :=
  match a with
  | .str _ => .ok (.str b.display)
  | .element _ => .ok (.element b.display)
  | .bool _ => .ok (.bool b.truthy)
  | .int _ => do return .int (← b.toInt)
  | .float _ => match b.float? with
    | some x => .ok (.float x)
    | none => do
      let s ← b.needText
      (Decimal.float? s).elim (.error .badValue) (fun x => .ok (.float x))
  | .list _ => do return .list (← b.elems)
  | .tuple _ => do return .tuple (← b.elems)
  | .set _ => do return .set (← Expr.distinct b)
  | .dict _ | .table _ => do
    if b.isDict then return b
    let rows ← (← b.elems).mapM Value.elems
    return .ofEntries (← rows.foldlM (fun acc row => match row with
      | [k,v] => if k.hashable then Except.ok (Value.insertEntry k v acc) else .error .wrongKind
      | _ => .error .badValue) [])
  | .null | .thing _ => .error .wrongKind

def sameKind : Value → Value → Bool
  | .null,.null => true
  | .bool _,.bool _ => true
  | .int _,.int _ => true
  | .float _,.float _ | .str _,.str _ | .list _,.list _ | .tuple _,.tuple _ | .set _,.set _ => true
  | .dict _,b | .table _,b => b.isDict
  | .element _,.element _ => true
  | .thing a,.thing b => a == b
  | _,_ => false

def operate (op : String) (a b : Value) : Result Value :=
  let compared := fun (o : CompareOp) => do return Value.bool (← compareValues o a b)
  match op with
  | "==" => compared .eq
  | "!=" => compared .ne
  | ">" => compared .gt
  | ">=" => compared .ge
  | "<" => compared .lt
  | "<=" => compared .le
  | "&&" => .ok (if a.truthy then b else a)
  | "||" => .ok (if a.truthy then a else b)
  | _ => .error .missingKey

/-- Values of different kinds are compared after turning the second into the kind of the first or,
where that fails, the other way round. -/
def applyBinaryOp (a b : Value) (op : String) : Result Value :=
  if sameKind a b then operate op a b
  else
    match (do operate op a (← convertLike a b) : Result Value) with
    | .ok v => .ok v
    | .error _ => do operate op (← convertLike b a) b

/-- With `only`, just the marks of that reference. Quotes around a dotted reference go as well, or
move inside where `keepQuotes` holds. -/
def removeInterpolation (only : Option String) (keepQuotes : Bool) : String :=
  (varBlocks s).reverse.foldl (fun (s : String) (b : VarBlock) =>
    if startsWith b.full "$\x7b" && endsWith b.full "\x7d" && only.all (fun r => r.isEmpty || b.inner == r) then
      let cs := s.toList
      let start : Int := ((find? s b.full).map Int.ofNat).getD (-1)
      let stop : Int := start+b.full.length
      let at_ := fun (i : Int) => cs[i.toNat]?
      if decide ((0 : Int) < start) && decide (stop ≤ (s.length : Int) - 2) && at_ (start - 1) == some '\'' &&
          at_ stop == some '\'' && contains b.full "." then
        let s := String.ofList (cs.take (start - 1).toNat) ++ b.full ++ String.ofList (cs.drop (stop+1).toNat)
        replace s b.full (if keepQuotes then "'" ++ b.inner ++ "'" else b.inner)
      else replace s b.full b.inner
    else s) s

def directive := of "\\%\\\x7b([^\\\x7d]*)\\\x7d"

def wordIf := of "\\bif\\b"

def wordElse := of "\\belse\\b"

def wordEndif := of "\\bendif\\b"

def dropBlanks : String := (of "\\s").replace s ""

def conditionalPart (part : String) : String :=
  let part := if wordIf.occursIn part then dropBlanks (replace part "if" "%\x7b" ++ " ? ") else part
  let part := if wordElse.occursIn part then dropBlanks (replace part "else" ":") else part
  if wordEndif.occursIn part then dropBlanks (replace part "endif" "\x7d") else part

def directiveParts : List String := (directive.split s).map (·.getD "")

def asConditional : String :=
  match (directive.findAll s).map (fun m => (m.group? 1).getD "") with
  | [a,b,c] =>
    if wordIf.occursIn a && wordElse.occursIn b && wordEndif.occursIn c then
      String.join ((directiveParts s).map conditionalPart)
    else s
  | _ => s

def conditional := of "([^\\?]+)\\?([^:]+)\\:([^:]+)"

def wholeInterpolation := of "^\\$\\\x7b(.*)\\\x7d$"

def comparison : Text.Pattern := of "^(?P<a>.+?)\\s*(?P<operator>==|!=|>=|>|<=|<|&&|\\|\\|)\\s*(?P<b>.+)$"

mutual

/-- Without `keepMarks` interpolation marks are removed first, and put back if that did not help.
Here and below the first argument bounds how deep texts may be taken apart. -/
def evaluateFuel : Nat → Value → Bool → Result Value
  | 0,_,_ => .error .tooDeep
  | fuel+1,v,keepMarks =>
    if longestEvaluated < (v.text?.getD "").length then .ok v
    else
      match tryEvaluate v with
      | .data (.str s) => do
        let s := replace (replace s "\n" "") ",," ","
        let bare := if keepMarks then s else removeInterpolation s none true
        let marked := if "$\x7b" ++ bare ++ "\x7d" == s then bare else s
        let e := evaluateListAccess (evaluateMap bare)
        let e ← evaluateDirectivesFuel fuel (stripDoubleQuotes e)
        let e ← evaluateConditionalFuel fuel (unwrapInterpolation e)
        let e ← evaluateCompareFuel fuel (.str e)
        let e := evaluateJsonTypes e
        let second := tryEvaluate e
        if second.callable then return e
        else if !keepMarks && second.value == .str bare then return .str marked
        else return second.value
      | .data w => .ok w
      | _ => .ok v

def evaluateDirectivesFuel : Nat → String → Result String
  | 0,_ => .error .tooDeep
  | fuel+1,s =>
    if !directive.occursIn s then .ok s
    else evaluateParts fuel (directiveParts (asConditional s))

def evaluateParts : Nat → List String → Result String
  | _,[] => .ok ""
  | 0,_ => .error .tooDeep
  | fuel+1,part :: parts => do
    let v ← evaluateFuel fuel (.str part) true
    return v.display ++ (← evaluateParts fuel parts)

def evaluateConditionalFuel : Nat → String → Result String
  | 0,_ => .error .tooDeep
  | fuel+1,s =>
    match conditional.matchStart? s with
    | none => .ok s
    | some m => do
      let test ← evaluateFuel fuel (.str ((m.group? 1).getD "")) true
      let chosen := if (truthOf test).truthy then m.group? 2 else m.group? 3
      let v ← evaluateFuel fuel (.str (chosen.getD "")) true
      evaluateConditionalFuel fuel (replace s m.whole (strip v.display))

def evaluateCompareFuel : Nat → Value → Result Value
  | 0,_ => .error .tooDeep
  | fuel+1,v =>
    match v.text? with
    | none => .ok v
    | some s =>
      if contains s "for" then .ok v
      else match comparison.search? s with
        | none => .ok v
        | some m =>
          match m.named? "a", m.named? "b", m.named? "operator" with
          | some a,some b,some op =>
            let outcome : Result Value := do
              let x ← evaluateFuel fuel (.str a) true
              let y ← evaluateFuel fuel (.str b) true
              applyBinaryOp x y op
            match outcome with
            | .error .wrongKind => .ok v
            | r => r
          | _,_,_ => .ok v

def unwrapInterpolation (s : String) : String :=
  match wholeInterpolation.matchStart? s with
  | some m => (m.group? 1).getD ""
  | none => s

end

def fuelFor : Nat := v.display.length+64

def evaluate (keepMarks : Bool := true) : Result Value := evaluateFuel (fuelFor v) v keepMarks

def evaluateDirectives : Result String := evaluateDirectivesFuel (s.length+64) s

def evaluateConditional : Result String := evaluateConditionalFuel (s.length+64) (unwrapInterpolation s)

def evaluateCompare : Result Value := evaluateCompareFuel (fuelFor v) v

def mergeArguments (resolve : String → Value) : Option Value := do
  let args ← splitArguments s
  let es ← args.foldlM (fun acc a =>
    let v := if startsWith a "\x7b" then (looselySpelled? (.str a)).getD .null else resolve a
    if v.isDict then some (Value.insertAll v.entries acc) else none) []
  return .ofEntries es

def concatArguments (resolve : String → Value) : Option Value := do
  let args ← splitArguments s
  let xs ← args.mapM fun a =>
    if startsWith a "[" then none
    else match resolve a with
      | .list xs => some xs
      | _ => none
  return .list xs.flatten

def replaceReference (reference : String) (new : Value) (keepOrigin : Bool) : Value → Result Value
  | .str s =>
    if !contains s reference then .ok (.str (if keepOrigin then s else reference))
    else .ok (.str (replace (removeInterpolation s (some reference) false) reference new.display))
  | .list (x::xs) => do
    let y ← replaceReference reference new keepOrigin x
    let y ← match new with
      | .int _ | .float _ | .bool _ => evaluate y
      | _ => pure y
    return .list (y::xs)
  | .list [] => if keepOrigin then .ok (.list []) else .ok (.str reference)
  | v => .ok v

end InfraAudit.Terraform
