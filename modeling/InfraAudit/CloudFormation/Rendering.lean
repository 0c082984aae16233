import InfraAudit.CloudFormation.Blocks

namespace InfraAudit.CloudFormation

open Section Text Value Fields

def Stack.refreshed (s : Stack) (g : Graph) : Value :=
  all.foldl (fun root part =>
    match root.get? part.title with
    | some (.dict fs) =>
      root.set! part.title (.dict (fs.map fun (name,v) =>
        match s.numberIn? part name, part with
        | none,_ => (name,v)
        | some i,.resources =>
          (name,if v.hasKey "Properties" then v.set! "Properties" (.dict (g.vertex i).attributes) else v)
        | some i,_ => (name,.dict (g.vertex i).attributes)))
    | _ => root) s.root

/-- Edges without a label, to the block itself or known already are left out. -/
def connect (g : Graph) (origin dest : Nat) (label : String) : Graph :=
  if label.isEmpty || g.edges.contains ⟨origin,dest,label⟩ then g
  else {g with edges := g.edges ++ Graph.between origin dest label}

def named? (root name : Value) (parts : List Section) : Result (Option Value) := do
  let some k := name.text? | return none
  let found ← parts.anyM fun part => do
    let v := root.getD part.title
    if v.isNull then return false else return (← v.partOr k .null).truthy
  return if found then some name else none

structure Naming where
  key : String
  target : Value → Value → Result (Option Value)

def firstOf (n : Nat) (part : Section) (root v : Value) : Result (Option Value) :=
  match v with
  | .list (x::xs) => if xs.length+1 == n then named? root x [part] else .ok none
  | _ => .ok none

def wholeOf (parts : List Section) (root v : Value) : Result (Option Value) := named? root v parts

def attributeOwner (root v : Value) : Result (Option Value) :=
  match v with
  | .str s =>
    if contains s "." then named? root (.str ((split s ".").headD "")) [.resources] else .ok none
  | v => firstOf 2 .resources root v

def namings : List Naming := [
  ⟨"Condition",wholeOf [.conditions]⟩,
  ⟨"Fn::GetAtt",attributeOwner⟩,
  ⟨"Fn::If",firstOf 3 .conditions⟩,
  ⟨"Ref",wholeOf [.resources,.parameters]⟩,
  ⟨"Fn::FindInMap",firstOf 3 .mappings⟩]

def sourceOf (d : Deep) : Value × String :=
  let place := d.line
  let skipped := if place.headD .null == .str resources.title then 3 else 2
  ((place[1]?).getD .null,join "." (((place.take (place.length - 2)).drop skipped).map display))

def numberOf (s : Stack) (name : Value) : Result (Option Nat) :=
  if !name.hashable then .error .wrongKind
  else .ok (name.text?.bind s.number?)

def connectNamed (s : Stack) (d : Deep) (target : Value) (g : Graph) : Result Graph := do
  let (name,label) := sourceOf d
  match ← numberOf s name, ← numberOf s target with
  | some o,some t => return connect g o t label
  | _,_ => return g

def connectFunction (n : Naming) (g : Graph) (s : Stack) : Result Graph := do
  let root := s.refreshed g
  (root.deepKeys ["parent_metadata"] n.key []).foldlM (fun g d => do
    match ← n.target root d.value with
    | some t => if t.truthy then connectNamed s d t g else return g
    | none => return g) g

def substituted := Text.Pattern.of "\\$\x7b([a-zA-Z0-9.]*)\x7d"

def substitutedNames (v : Value) : Result (List String) := do
  return (substituted.findAll (← v.needText)).map fun m => (m.group? 1).getD ""

def substitution (v : Value) : Result (List String × Value) :=
  match v with
  | .list [] => .ok ([],.dict [])
  | .list [x,own] => do return (← substitutedNames x,own)
  | .list (x::_) => do return (← substitutedNames x,.dict [])
  | .str s => do return (← substitutedNames (.str s),.dict [])
  | _ => .ok ([],.dict [])

def connectSubstitutions (g : Graph) (s : Stack) : Result Graph := do
  ((s.refreshed g).deepKeys ["parent_metadata"] "Fn::Sub" []).foldlM (fun g d => do
    let (names,own) ← substitution d.value
    names.foldlM (fun g name => do
      if ← own.has name then return g
      connectNamed s d (.str ((split name ".").headD "")) g) g) g

def connectAttribute (ss : List Stack) (key : String) (g : Graph) : Result Graph :=
  (List.range g.vertices.size).foldlM (fun g i => do
    let b := g.vertex i
    if b.kind != resources.kind then return g
    let some s := ss.find? (·.path == b.path) | return g
    let name := lastPart b.name
    let targets := ((s.root.getD resources.title).getD name).getD key
    let named : List Value := match targets with
      | .str t => [.str t]
      | v => v.items
    return named.foldl (fun g t =>
      match t.text?.bind s.number? with
      | some j => connect g i j key
      | none => g) g) g

def linkAll (ss : List Stack) (g : Graph) : Result Graph := do
  let g ← connectAttribute ss "DependsOn" g
  let g ← connectAttribute ss "Condition" g
  let g ← namings.foldlM (fun g n => ss.foldlM (connectFunction n) g) g
  ss.foldlM connectSubstitutions g

open InfraAudit.Graph (Block Edge)

structure Reference where
  kind : String
  parts : List String
  name : String
  deriving DecidableEq, Repr

abbrev Names := List (String × List String)

def textReferences (names : Names) (s : String) : List Reference :=
  (words s).foldl (fun acc word =>
    let parts := split word "."
    let name := parts.headD ""
    match names.find? fun (_,ns) => ns.contains name with
    | none => acc
    | some (kind,_) =>
      let r : Reference := ⟨kind,parts,name⟩
      if acc.contains r then acc else acc ++ [r]) []

def withoutMarks (s : String) : String :=
  String.ofList (s.toList.map fun c => if c == '$' || c == '\x7b' || c == '\x7d' then ' ' else c)

def joinedName : Value → Value
  | .list xs =>
    match xs.mapM text? with
    | some ss => .str (join "." ss)
    | none => .list xs
  | v => v

mutual

def references (names : Names) : Value → List Reference
  | .str s => textReferences names (withoutMarks s)
  | .list xs => itemReferences names xs
  | .dict fs => fieldReferences names fs
  | _ => []

def itemReferences (names : Names) : List Value → List Reference
  | [] => []
  | x::xs => references names x ++ itemReferences names xs

def fieldReferences (names : Names) : Fields → List Reference
  | [] => []
  | (k,v)::r =>
    (match k == "Fn::GetAtt", joinedName v with
      | true,.str s => textReferences names (withoutMarks s)
      | _,_ => references names v) ++ fieldReferences names r

end

def insertName (kind name : String) : Names → Names
  | [] => [(kind,[name])]
  | (k,ns)::r => if k == kind then (k,ns ++ [name]) :: r else (k,ns) :: insertName kind name r

variable (v : Value) (g : Graph) (dest : Fields)

def namesOf : Names :=
  g.vertices.foldl (fun acc b =>
    insertName b.kind (if b.kind == resources.kind then lastPart b.name else b.name) acc) []

def conditionKeys := ["Fn::Or","Fn::And","Fn::Equals","Fn::Not","Condition"]

def attributesOf (kind : String) (name : Value) : Result (Option Fields) :=
  if !g.vertices.any (·.kind == kind) then .error .noMember
  else if !name.hashable then .error .wrongKind
  else .ok ((g.vertices.find? fun b => b.kind == kind && name == .str b.name).map (·.attributeView false))

def deepestCondition : Nat := 300

def both (op : Bool → Bool → Bool) (x y : Option Bool) : Option Bool := do return op (← x) (← y)

mutual

def condition (g : Graph) : Nat → String → Value → Result (Option Bool)
  | 0,_,_ => .error .tooDeep
  | fuel+1,key,v =>
    match key, v with
    | "Condition",v => do
      let some fs ← attributesOf g conditions.kind v | return none
      conditionOf g fuel fs
    | "Fn::Equals",.list [.str a,.str b] => .ok (some (a == b))
    | "Fn::Not",v => do return (← conditionIn g fuel v).map (!·)
    | "Fn::And",.list [a,b] => do return both and (← conditionIn g fuel a) (← conditionIn g fuel b)
    | "Fn::Or",.list [a,b] => do return both or (← conditionIn g fuel a) (← conditionIn g fuel b)
    | _,_ => .ok none

def conditionOf (g : Graph) : Nat → Fields → Result (Option Bool)
  | 0,_ => .error .tooDeep
  | fuel+1,fs =>
    match conditionKeys.find? (has fs) with
    | none => .ok none
    | some k => condition g fuel k ((get? fs k).getD .null)

def conditionIn (g : Graph) : Nat → Value → Result (Option Bool)
  | 0,_ => .error .tooDeep
  | fuel+1,v =>
    match conditionKeys.find? v.hasKey with
    | none => .ok none
    | some k =>
      let x := v.getD k
      if x.truthy then condition g fuel k x else .ok none

end

structure Found where
  value : Value
  place : Option String

def shown (attributes : Fields) (k : String) : Value := (get? attributes k).getD .null

def refValue : Option Found :=
  let default := shown dest "Default"
  if !default.isNull && v == shown dest "block_name_" && shown dest "block_type_" == .str parameters.kind then
    some ⟨.str default.display,some "Default"⟩
  else none

def mapValue : Option Found :=
  match v with
  | .list [name,top,second] =>
    let place := top.display ++ "." ++ second.display
    let found := shown dest place
    if found.truthy && v.items.all isText && name == shown dest "block_name_" &&
        shown dest "block_type_" == .str mappings.kind then
      some ⟨.str found.display,some place⟩
    else none
  | _ => none

def attributeValue : Option Found :=
  match v with
  | .list [.str owner,.str place] =>
    let name := ((shown dest "block_name_").text?.map lastPart).getD ""
    let found := shown dest place
    if found.truthy && owner == name && shown dest "block_type_" == .str resources.kind then
      some ⟨.str found.display,some place⟩
    else none
  | _ => none

def marked (name : String) : String := "$\x7b" ++ name ++ "\x7d"

def filledText : Result (Option Found) :=
  match v with
  | .list _ | .dict _ => .ok none
  | v => do
    let names := (← substitutedNames v).eraseDups
    let s ← v.needText
    let block := ((shown dest "block_name_").text?).getD ""
    let kind := shown dest "block_type_"
    let filled (name : String) (f : Found) : Found :=
      let new := replace s (marked name) f.value.display
      ⟨.str (if new.isEmpty then s else new),f.place⟩
    if kind == .str parameters.kind then
      return (refValue (.str block) dest).bind fun f =>
        if f.value.truthy then some (filled block f) else none
    if kind == .str resources.kind then
      let short := lastPart block
      let found := (names.filter (contains · short)).filterMap fun name =>
        (attributeValue (ofStrings (split name ".")) dest).map (filled name)
      return if short.isEmpty then none else found.getLast?
    return none

def chosenBranch (g : Graph) : Nat → Value → Fields → Result (Option (Value × String))
  | 0,_,_ => .error .tooDeep
  | fuel+1,v,dest =>
    if v.isDict then .ok none
    else do
      let name ← v.index 0
      let yes ← v.index 1
      let no ← v.index 2
      let holds ← if name.isText && name == shown dest "block_name_" &&
          shown dest "block_type_" == .str conditions.kind then
          condition g deepestCondition "Condition" name
        else pure none
      let some b := holds | return none
      let (n,branch) := if b then ("1",yes) else ("2",no)
      match branch with
      | .str s => return some (.str s,n)
      | branch =>
        match branch.get? "Fn::If" with
        | some (.list xs) =>
          let first ← (list xs).first
          if !first.isText then return none
          match ← attributesOf g conditions.kind first with
          | none => do
            let _ ← (list xs).index 1
            let _ ← (list xs).index 2
            throw .noMember
          | some fs =>
            match ← chosenBranch g fuel (.list xs) fs with
            | some (x,path) => return some (x,n ++ ".Fn::If." ++ path)
            | none => return none
        | _ => return none

def edgeKeys := ["Ref","Fn::FindInMap","Fn::GetAtt","Fn::Sub","Fn::If"]

def takeAlong (e : Edge) (key : String) (v : Value) : Result (Option (Value × Option Nat × Option String)) := do
  let dest := (g.vertex e.dest).attributeView false
  let known (f : Option Found) := f.map fun f => (f.value,some e.dest,f.place)
  match key with
  | "Ref" => return known (refValue v dest)
  | "Fn::FindInMap" => return known (mapValue v dest)
  | "Fn::GetAtt" => return known (attributeValue v dest)
  | "Fn::Sub" => return known (← filledText v dest)
  | _ =>
    match ← chosenBranch g deepestCondition v dest with
    | none => return none
    | some (x,path) =>
      let trail := ((g.vertex e.origin).changed.lookup (e.label ++ ".Fn::If." ++ path)).map g.trail
      match trail with
      | some [c] => return some (x,some c.vertex,c.key)
      | _ => return some (x,none,none)

def takeAll (g : Graph) (key : String) (first : Value) :
    Value → List Edge → Result (Option (List (Edge × Value × Option Nat × Option String)))
  | _,[] => .ok (some [])
  | v,e :: es => do
    match ← takeAlong g e key v with
    | none => return none
    | some (x,origin,place) =>
      if x.falsy || x == first then return none
      return (← takeAll g key first x es).map ((e,x,origin,place) :: ·)

def follow (names : Names) (g : Graph) (edges : List Edge) : Result Graph := do
  match edges with
  | [] => return g
  | e::_ =>
    let b := g.vertex e.origin
    let v := (get? b.attributes e.label).getD ""
    if (references names v).isEmpty then
      if e.label != "Condition" then return g
      match ← conditionOf g deepestCondition ((g.vertex e.dest).attributeView false) with
      | some c => return g.modifyVertex e.origin fun b => {b with condition := c}
      | none => return g
    let some key := edgeKeys.find? v.hasKey | return g
    let some taken ← takeAll g key (v.getD key) (v.getD key) edges | return g
    taken.foldlM (fun g (e,x,origin,place) => change g e.origin false e.label x origin place) g

def listedItems : Value → Option (List Value)
  | .list xs => some xs
  | .str s => some ((split s ", ").map .str)
  | _ => none

def twoArguments : Result (Option (Value × Value)) := do
  if (← v.size) != 2 then return none
  return some (← v.index 0,← v.index 1)

def selected : Result (Option Value) := do
  let some (place,items) ← twoArguments v | return none
  let n := match place with
    | .str s => if isNonemptyOf isDecimal s then Decimal.int? s else none
    | v => v.int?
  let some n := n.filter (0 ≤ ·) | return none
  let some x := (listedItems items).bind (·[n.toNat]?) | return none
  let marks ← ["Fn::","AWS::","Ref"].filterM x.has
  return if marks.isEmpty then some x else none

def joined : Result (Option Value) := do
  match ← twoArguments v with
  | some (.str sep,items) => return ((listedItems items).bind (·.mapM text?)).map fun ss => .str (join sep ss)
  | _ => return none

def composed : Result (Option Value) :=
  match v.get? "Fn::Select", v.get? "Fn::Join" with
  | some x,_ => selected x
  | none,some x => joined x
  | none,none => .ok none

def compose (i : Nat) : Result Graph :=
  (g.vertex i).attributes.foldlM (fun g (k,v) => do
    let x := (← composed v).getD .null
    if x.isNull then return g else change g i false k x none none) g

def crumbs (t : Nat) : Value :=
  .list ((g.trail t).map fun c => .dict ((g.vertex c.vertex).summary ++ [("attribute_key",(c.key.map str).getD .null)]))

def noteTrails : Graph :=
  { g with vertices := g.vertices.map fun b =>
      {b with breadcrumbs := b.changed.foldl (fun fs (k,t) => insert k (crumbs g t) fs) b.breadcrumbs} }

def render : Result Graph := do
  let names := namesOf g
  let g ← g.links.passes.foldlM (fun g pass => (Graph.Links.groups pass).foldlM (follow names) g) g
  return noteTrails (← (List.range g.vertices.size).foldlM compose g)

open InfraAudit.Graph (EncryptionRule)
open InfraAudit.Graph.EncryptionRule (given isOn oneOf)

def encryptionWords : Graph.EncryptionWords := {nodeToNode := "NodeToNodeEncryptionOptions"}

def encryptionRules : List EncryptionRule := [
  .of "AWS::ECR::Repository" [
    oneOf "EncryptionConfiguration.EncryptionType" ["AES256","KMS"],
    given "EncryptionConfiguration.KmsKey"],
  .of "AWS::Neptune::DBCluster" [isOn "StorageEncrypted",given "KmsKeyId"],
  .of "AWS::EFS::FileSystem" [isOn "Encrypted",given "KmsKeyId"],
  .of "AWS::EC2::Volume" [isOn "Encrypted",given "KmsKeyId"],
  .of "AWS::ElastiCache::ReplicationGroup" [isOn "AtRestEncryptionEnabled",oneOf "KmsKeyId" ["arn"]],
  .of "AWS::Elasticsearch::Domain" [
    isOn "EncryptionAtRestOptions.Enabled",
    given "EncryptionAtRestOptions.KmsKeyId",
    isOn "NodeToNodeEncryptionOptions.Enabled"],
  .of "AWS::MSK::Cluster" [given "EncryptionInfo.EncryptionAtRest.DataVolumeKMSKeyId"],
  .of "AWS::DocDB::DBCluster" [isOn "StorageEncrypted",given "KmsKeyId"],
  .of "AWS::CodeBuild::Project" [given "EncryptionKey"],
  .of "AWS::CodeBuild::ReportGroup" [
    ("ExportConfig.S3Destination.EncryptionDisabled",[false]),
    given "ExportConfig.S3Destination.EncryptionKey"],
  .of "AWS::Athena::WorkGroup" [
    oneOf "WorkGroupConfiguration.ResultConfiguration.EncryptionConfiguration.EncryptionOption" ["SSE_S3","SSE_KMS","CSE_KMS"],
    given "WorkGroupConfiguration.ResultConfiguration.EncryptionConfiguration.KmsKey"],
  .of "AWS::Kinesis::Stream" [oneOf "StreamEncryption.EncryptionType" ["KMS"],given "StreamEncryption.KeyId"],
  .of "AWS::EKS::Cluster" [given "EncryptionConfig.Provider.KeyArn"],
  .of "AWS::DynamoDB::Table" [
    isOn "SSESpecification.SSEEnabled",
    given "SSESpecification.KMSMasterKeyId",
    given "SSESpecification.SSEType"] true,
  .of "AWS::RDS::DBCluster" [isOn "StorageEncrypted",given "KmsKeyId"],
  .of "AWS::RDS::GlobalCluster" [isOn "StorageEncrypted"],
  .of "AWS::S3::Bucket" [
    oneOf "BucketEncryption.ServerSideEncryptionConfiguration.ServerSideEncryptionByDefault.SSEAlgorithm" ["aws:kms","AES256"],
    given "server_side_encryption_configuration.rule.apply_server_side_encryption_by_default.KMSMasterKeyID"],
  .of "AWS::Logs::LogGroup" [given "KmsKeyId"] true,
  .of "AWS::CloudTrail::Trail" [given "KMSKeyId"],
  .of "AWS::DAX::Cluster" [isOn "SSESpecification.SSEEnabled"],
  .of "AWS::Redshift::Cluster" [isOn "Encrypted",given "KmsKeyId"],
  .of "AWS::SNS::Topic" [given "KmsMasterKeyId"],
  .of "AWS::SQS::Queue" [given "KmsMasterKeyId"],
  .of "AWS::RDS::DBInstance" [isOn "StorageEncrypted"]]

def graphOf (ts : List TemplateFile) (rendered : Bool) : Result Graph := do
  let (g,ss) := blocksOf "CloudFormation" ts
  let g ← linkAll ss (← shareAll g)
  let g ← if rendered then render g else pure g
  return g.markEncryption encryptionWords encryptionRules

end InfraAudit.CloudFormation
