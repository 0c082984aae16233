import InfraAudit.Expr.Arithmetic
import InfraAudit.Expr.Format
import InfraAudit.Expr.Moment

namespace InfraAudit.Expr

open Value Text

def wrong {α : Type} : Result α := .error .wrongKind

variable (v : Value) (s : String) (name : String)

def startGroups? (p : Pattern) (s : String) : Option Value := do
  let m ← p.matchStart? s
  if !p.names.isEmpty then some (.dict (p.names.map fun (n,i) => (n,optionalText (m.group? i))))
  else if p.groups > 0 then some (.list (m.groups.map optionalText))
  else none

def foundValue (p : Pattern) (m : Found) : Value :=
  let part := fun (g : Option String) => str (g.getD "")
  if p.groups == 0 then .str m.whole
  else if p.groups == 1 then part (m.group? 1)
  else .tuple (m.groups.map part)

/-- The groups of a match at the start, or else what `pick` makes of all matches. -/
def regex (name : String) (pick : List Value → Value) (pattern s : Value) : Result Value :=
  match pattern.text?, s.text? with
  | some p,some t => do
    let p ← Pattern.read p
    return (startGroups? p t).getD (pick ((p.findAll t).map (foundValue p)))
  | _,_ => .ok (.str (name ++ "(" ++ pattern.display ++ ", " ++ s.display ++ ")"))

def trim (s chars : Value) : Result Value := do
  (← chars.elems).foldlM (fun acc c => do return .str (replace (← acc.asText) (← c.needText) "")) s

def coalesce (blank : Value) : List Value → Result Value
  | [] => wrong
  | x::xs => .ok (xs.foldl (fun acc y => if acc == .null || acc == blank then y else acc) x)

def flatten : Nat → Value → Result Value
  | 0,_ => .error .tooDeep
  | fuel+1,v => do
    let flat := (← (← v.elems).mapM elems).flatten
    if flat.any isList then flatten fuel (.list flat) else return .list flat

def matchKeys (values keys search : Value) : Result Value := do
  let ks ← keys.elems
  let mut found : List Value := []
  for s in ← search.elems do
    for (k,i) in ks.zipIdx do
      if k == s then
        let v ← values.index i
        if !v.hashable then return ← wrong
        if !elem v found then found := found ++ [v]
  return .list found

def sortItems : Result Value := do
  match v with
  | .list xs =>
    for x in xs do
      for y in xs do
        let _ ← lt x y
    return .list (xs.mergeSort fun a b => (lt b a).toOption != some true)
  | _ => .error .noMember

def merge (args : List Value) : Result Value := do
  return .ofEntries (← args.foldlM (fun acc d => if d.isDict then .ok (insertAll d.entries acc) else wrong) [])

/-- `${True}` and `${False}` become truth values up to the first value that makes the kinds mixed; a
mapping with texts and others holds texts only. -/
def unifyKinds (es : Entries) : Entries :=
  let rec go : Bool → Bool → Entries → Entries × Bool
    | _,_,[] => ([],false)
    | text,other,(k,v) :: r =>
      let v := if v == "${True}" then .bool true else if v == "${False}" then .bool false else v
      let text := text || v.isText
      let other := other || !v.isText
      if text && other then ((k,v) :: r,true)
      else
        let (r,mixed) := go text other r
        ((k,v) :: r,mixed)
  let (es,mixed) := go false false es
  if mixed then es.map fun (k,v) => (k,.str (loweredText v)) else es

def createMap (args : List Value) : Result Value :=
  let rec go : Entries → List Value → Result Entries
    | acc,[] => .ok acc
    | _,[_] => .error .outOfRange
    | acc,k :: v :: r => if k.hashable then go (insertEntry k v acc) r else wrong
  do return .ofEntries (unifyKinds (← go [] args))

def toBool? : Option Value := (some (truthOfText v)).filter isBool

def isQuotedText : Bool := startsWith s "\"" && endsWith s "\""

def unquote : String :=
  if isQuotedText s then slice s (some 1) (some (-1)) else s

def toNumber? : Option Value :=
  let s := unquote s
  if contains s "." then (Decimal.float? s).map .float else (Decimal.int? s).map .int

def toText? : Option Value :=
  if isQuotedText s then some (.str (unquote s)) else (toBool? s).or ((toNumber? s).map (.str ·.display))

def orBad (o : Option Value) : Result Value := o.elim (.error .badValue) .ok

def titleCase : String :=
  let step := fun (acc : List (List Char) × Bool) (c : Char) =>
    let cased := lowerChar c != c || upperChars c != [c]
    (((if acc.2 then [lowerChar c] else upperChars c) :: acc.1),cased)
  String.ofList ((s.toList.foldl step ([],false)).1.reverse.flatten)

def parseInt : List Value → Result Value
  | [] => .ok (.int 0)
  | [v] => do return .int (← v.toInt)
  | [v,b] => do
    let s ← v.needText
    let base ← b.needInt
    if base < 0 || base == 1 || base > 36 then .error .badValue
    else orBad ((Decimal.intOfText? s base.toNat).map .int)
  | _ => wrong

def extreme (better : Value → Value → Result Bool) : List Value → Result Value
  | [] => wrong
  | [v] => do best (← v.elems)
  | xs => best xs
where
  best : List Value → Result Value
    | [] => .error .badValue
    | x::xs => xs.foldlM (fun acc y => return if ← better y acc then y else acc) x

def rounding (f : Decimal.Binary → Int) : Value → Result Value
  | .float x => match Decimal.ofFloat? x with
    | some b => .ok (.int (f b))
    | none => if x.isNaN then .error .badValue else .error .overflow
  | v => do return .int (← v.needInt)

def logOf : Result Float := v.float?.elim wrong fun x => if x ≤ 0 then .error .badValue else .ok (Float.log x)

def strip (side : (Char → Bool) → String → String) (s : String) : List Value → Result Value
  | [] | [.null] => .ok (.str (side isBlank s))
  | [v] => do
    let cs := (← v.needText).toList
    return .str (side (cs.contains ·) s)
  | _ => wrong

def splitText : List Value → Result Value
  | [] | [.null] => .ok (.ofStrings (words s))
  | [v] => do
    let sep ← v.needText
    if sep.isEmpty then .error .badValue else return .ofStrings (split s sep)
  | _ => wrong

def joinTexts' (sep : String) (v : Value) : Result Value := do
  return .str (join sep (← (← v.elems).mapM needText))

def reversed : Result Value :=
  match v with
  | .str s | .element s => .ok (.str (String.ofList s.toList.reverse))
  | .list xs => .ok (.list xs.reverse)
  | .tuple xs => .ok (.tuple xs.reverse)
  | _ => wrong

def distinct : Result (List Value) := do
  let xs ← v.elems
  if xs.all hashable then return xs.foldl (fun acc x => if elem x acc then acc else acc ++ [x]) [] else wrong

def formatted (s x : Value) : Result Value :=
  match s with
  | .str t => do return .str (← fill t x)
  | s => binary .mod s x

def builtinNames := ["abs","ceil","floor","log","max","min","pow","length"]

def functionNames := ["signum","chomp","format","formatlist","indent","join","lower","regex","regexall","replace","split","strrev",
  "substr","title","trim","trimprefix","trimsuffix","trimspace","upper","chunklist","coalesce","coalescelist","compact",
  "concat","contains","distinct","element","flatten","index","keys","list","lookup","map","matchkeys","merge","reverse","sort",
  "tobool","tolist","tonumber","toset","tostring","jsonencode","timestamp","timeadd","formatdate"]

def functionKind? : Option String :=
  if builtinNames.contains name then some "builtin_function_or_method"
  else if name == "parsint" then some "type"
  else if functionNames.contains name then some "function" else none

def callFunction (args : List Value) : Result Value :=
  match name, args with
  | "abs",[.float x] => .ok (.float x.abs)
  | "abs",[v] => do return .int (← v.needInt).natAbs
  | "ceil",[v] => rounding (·.ceil) v
  | "floor",[v] => rounding (·.floor) v
  | "log",[v] => do return .float (← logOf v)
  | "log",[v,b] => do
    let x ← logOf v
    let y ← logOf b
    if y == 0 then .error .divisionByZero else return .float (x / y)
  | "max",args => extreme gt args
  | "min",args => extreme lt args
  | "parsint",args => parseInt args
  | "pow",[a,b] | "pow",[a,b,.null] => binary .pow a b
  | "pow",[a,b,m] => do
    let m ← m.needInt
    let b ← b.needInt
    let a ← a.needInt
    if m == 0 || b < 0 then .error .badValue else binary .mod (← binary .pow (.int a) (.int b)) (.int m)
  | "signum",[v] => do
    if ← lt v (.int 0) then return .int (-1)
    else return .int (if v == .int 0 then 0 else 1)
  | "chomp",[v] => do strip stripRight (← v.asText) []
  | "format",s :: args => formatted s (.tuple args)
  | "formatlist",[s,xs] => do return .list (← (← xs.elems).mapM (formatted s))
  | "indent",[_,s] => .ok s
  | "join",[sep,xs] => do joinTexts' (← sep.asText) xs
  | "lower",[v] => do return .str (← v.lowered)
  | "regex",[p,s] => regex "regex" (·.headD "") p s
  | "regexall",[p,s] => regex "regexall" .list p s
  | "replace",[s,a,b] => do return .str (replace (← s.asText) (← a.needText) (← b.needText))
  | "split",[sep,s] => do splitText (← s.asText) [sep]
  | "strrev",[v] => reversed v
  | "substr",[v,off,len] => do
    let stop ← binary .add off len
    v.sliced (some (← off.needInt)) (some (← stop.needInt))
  | "title",[v] => do return .str (titleCase (← v.asText))
  | "trim",[s,chars] => trim s chars
  | "trimprefix",[s,chars] => do strip stripLeft (← s.asText) [chars]
  | "trimsuffix",[s,chars] => do strip stripRight (← s.asText) [chars]
  | "trimspace",[s] => do strip stripBy (← s.asText) []
  | "upper",[v] => do return .str (← v.uppered)
  | "chunklist",[v,n] => do
    let size ← v.size
    let n ← n.needInt
    if n == 0 then .error .badValue
    else
      let starts := (List.range size).filter fun i => 0 < n && i % n.toNat == 0
      return .list (← starts.mapM fun (i : Nat) => v.sliced (some i) (some (i+n)))
  | "coalesce",args => coalesce "" args
  | "coalescelist",args => coalesce (.list []) args
  | "compact",[v] => do return .list ((← v.elems).filter fun x => !(x == ""))
  | "concat",args => do return .list (← args.mapM elems).flatten
  | "contains",[xs,x] => do return .bool (← xs.holds x)
  | "distinct",[v] => do return .list (← distinct v)
  | "element",[xs,i] => xs.item i
  | "flatten",[v] => flatten (v.nesting+2) v
  | "index",[xs,x] => do return .int (← xs.indexOf x)
  | "keys",[m] => do return .list (← m.keysOf)
  | "length",[v] => do return .int (← v.size)
  | "list",args => .ok (.list args)
  | "lookup",[m,k,d] =>
    if !m.isDict then .error .noMember
    else if !k.hashable then wrong
    else .ok ((findEntry (fun k' => k' == k) m.entries).getD d)
  | "map",args => createMap args
  | "matchkeys",[vs,ks,ss] => matchKeys vs ks ss
  | "merge",args => merge args
  | "reverse",[.list xs] => .ok (.list xs.reverse)
  | "reverse",[_] => .error .noMember
  | "sort",[v] => sortItems v
  | "tobool",[v] => orBad (toBool? v)
  | "tolist",[] => .ok (.list [])
  | "tolist",[v] => do return .list (← v.elems)
  | "tonumber",[.int n] => .ok (.int n)
  | "tonumber",[.float x] => .ok (.float x)
  | "tonumber",[v] => do orBad (toNumber? (← v.asText))
  | "toset",[v] => do return .set (← distinct v)
  | "tostring",[v] => if v.isText then .ok v else orBad (toText? v.display)
  | "jsonencode",[v] => .ok v
  | "timeadd",[s,d] => do
    let t ← momentOf (← s.asText)
    return .str (← t.addDuration (← d.needText)).timestamp
  | "formatdate",[f,s] => do
    let t ← momentOf (← s.asText)
    return .str (t.format (← f.needText))
  | _,_ => wrong

def inField (share : Nat → Nat → Nat) : List Value → Result Value
  | [] | _::_::_::_ => wrong
  | width::fill => do
    let w := (← width.needInt).toNat
    let fill ← (fill.headD " ").needText
    if fill.length != 1 then wrong
    else if w > 1000000 then .error .overflow
    else
      let pad := w - s.length
      let left := share pad w
      return .str (replicate left fill ++ s ++ replicate (pad - left) fill)

def centred (pad width : Nat) : Nat := pad / 2+(pad % 2)*(width % 2)

/-- Without a separator, `missing` says where the whole text goes. -/
def cutAround (sep : Value) (where? : String → String → Option Nat) (missing : List Value) : Result Value := do
  let sep ← sep.needText
  if sep.isEmpty then .error .badValue
  else match where? s sep with
    | none => return .tuple missing
    | some i =>
      let cs := s.toList
      return .tuple [.str (String.ofList (cs.take i)),.str sep,.str (String.ofList (cs.drop (i+sep.length)))]

/-- Whether a text has letters with case, all in that of `change`. -/
def inCase (change other : String → String) (s : String) : Bool := change s == s && !(other s == s)

def swapCase : String :=
  String.ofList (s.toList.flatMap fun c =>
    if lowerChar c == c then upperChars c else [lowerChar c])

/-- An empty field takes the next argument, a number the one at that place, and a doubled brace is a
brace. The two ways of numbering do not mix. -/
def fillFields (args : List Value) : Option Nat → Bool → List Char → Result (List Char)
  | _,_,[] => .ok []
  | next,placed,'\x7b' :: '\x7b' :: r => return '\x7b' :: (← fillFields args next placed r)
  | next,placed,'\x7d' :: '\x7d' :: r => return '\x7d' :: (← fillFields args next placed r)
  | next,placed,'\x7b' :: '\x7d' :: r => do
    if placed then .error .badValue
    else
      let i := next.getD 0
      match args[i]? with
      | some v => return v.display.toList ++ (← fillFields args (some (i+1)) placed r)
      | none => .error .outOfRange
  | next,_,'\x7b' :: d :: '\x7d' :: r => do
    if !d.isDigit then .error .missingKey
    else if next.isSome then .error .badValue
    else match args[d.toNat - 48]? with
      | some v => return v.display.toList ++ (← fillFields args next true r)
      | none => .error .outOfRange
  | _,_,'\x7b' :: _ | _,_,'\x7d' :: _ => .error .badValue
  | next,placed,c :: r => return c :: (← fillFields args next placed r)

def charClasses : List (String × (Char → Bool)) :=
  [("isdigit",isDigitLike),("isnumeric",isNumericLike),("isdecimal",isDecimal),("isalpha",isAlphabetic),
    ("isalnum",isAlphanumeric),("isspace",isBlank)]

def textMember (s name : String) (args : List Value) : Result Value :=
  match name, args with
  | "lower",[] | "casefold",[] => .ok (.str (lower s))
  | "upper",[] => .ok (.str (upper s))
  | "title",[] => .ok (.str (titleCase s))
  | "capitalize",[] => .ok (.str (capitalize s))
  | "strip",args => strip stripBy s args
  | "lstrip",args => strip stripLeft s args
  | "rstrip",args => strip stripRight s args
  | "split",args | "rsplit",args => splitText s args
  | "splitlines",[] => .ok (.ofStrings (lines s))
  | "join",[xs] => joinTexts' s xs
  | "replace",[a,b] => do return .str (replace s (← a.needText) (← b.needText))
  | "startswith",[p] => do return .bool (startsWith s (← p.needText))
  | "endswith",[p] => do return .bool (endsWith s (← p.needText))
  | "find",[p] => do return .int ((find? s (← p.needText)).elim (-1) fun i => i)
  | "rfind",[p] => do return .int ((findLast? s (← p.needText)).elim (-1) fun i => i)
  | "index",[p] => do orBad ((find? s (← p.needText)).map (.int ·))
  | "count",[p] => do return .int (count s (← p.needText))
  | "islower",[] => .ok (.bool (inCase lower upper s))
  | "isupper",[] => .ok (.bool (inCase upper lower s))
  | "isascii",[] => .ok (.bool (s.toList.all fun c => c.toNat < 128))
  | "swapcase",[] => .ok (.str (swapCase s))
  | "zfill",[n] => do
    let w := (← n.needInt).toNat
    let sign := s.toList.takeWhile fun c => c == '+' || c == '-'
    let sign := String.ofList (sign.take 1)
    return .str (sign ++ padLeft (dropPrefix s sign) (w - sign.length) '0')
  | "center",args => inField s centred args
  | "ljust",args => inField s (fun _ _ => 0) args
  | "rjust",args => inField s (fun pad _ => pad) args
  | "partition",[sep] => cutAround s sep find? [.str s,"",""]
  | "rpartition",[sep] => cutAround s sep findLast? ["","",.str s]
  | "rindex",[p] => do orBad ((findLast? s (← p.needText)).map (.int ·))
  | "removeprefix",[p] => do return .str (dropPrefix s (← p.needText))
  | "removesuffix",[p] => do return .str (dropSuffix s (← p.needText))
  | "format",args => do return .str (String.ofList (← fillFields args none false s.toList))
  | "encode",[] => .ok (.thing "bytes")
  | name,[] => (charClasses.lookup name).elim wrong fun p => .ok (.bool (isNonemptyOf p s))
  | _,_ => wrong

def textMembers :=
  ["lower","casefold","upper","title","capitalize","strip","lstrip","rstrip","split",
    "splitlines","join","replace","startswith","endswith","find","rfind","index","count",
    "isdigit","isnumeric","isdecimal","isalpha","isalnum","isspace","zfill","removeprefix",
    "encode","format","swapcase","center","ljust","rjust","partition","rpartition","rsplit",
    "removesuffix","translate","expandtabs","islower","isupper","istitle","isidentifier",
    "isprintable","isascii","rindex","maketrans","format_map"]

def listMember (xs : List Value) (name : String) (args : List Value) : Result Value :=
  match name, args with
  | "index",[x] => do return .int (← indexOf (.list xs) x)
  | "count",[x] => .ok (.int (xs.filter (· == x)).length)
  | "copy",[] => .ok (.list xs)
  | "append",[_] => .ok .null
  | "extend",[v] => do
    let _ ← v.elems
    return .null
  | "insert",[_,_] | "clear",[] | "reverse",[] => .ok .null
  | "sort",[] => do
    let _ ← sortItems (.list xs)
    return .null
  | "pop",[] => xs.getLast?.elim (.error .outOfRange) .ok
  | "pop",[i] => do nth xs (← i.needInt)
  | _,_ => wrong

def listMembers := ["index","count","copy","append","extend","insert","clear","reverse","sort","pop","remove"]

def dictMember (m : Value) (name : String) (args : List Value) : Result Value :=
  match name, args with
  | "get",[k] => callFunction "lookup" [m,k,.null]
  | "get",[k,d] => callFunction "lookup" [m,k,d]
  | "keys",[] => .ok (.thing "dict_keys")
  | "values",[] => .ok (.thing "dict_values")
  | "items",[] => .ok (.thing "dict_items")
  | "copy",[] => .ok m
  | "update",_ | "clear",[] => .ok .null
  | "pop",[k] => m.item k
  | "pop",[k,d] | "setdefault",[k,d] => callFunction "lookup" [m,k,d]
  | _,_ => wrong

def dictMembers := ["get","keys","values","items","copy","update","clear","pop","setdefault","popitem","fromkeys"]

def hasMember : Bool :=
  match v with
  | .str _ | .element _ => textMembers.contains name
  | .list _ => listMembers.contains name
  | .tuple _ => name == "index" || name == "count"
  | .dict _ | .table _ => dictMembers.contains name
  | _ => false

def callMember (args : List Value) : Result Value :=
  match v with
  | .str s | .element s => textMember s name args
  | .list xs | .tuple xs => listMember xs name args
  | .dict _ | .table _ => dictMember v name args
  | _ => .error .noMember

end InfraAudit.Expr
