import InfraAudit.Template.Node
import InfraAudit.Value.Access

namespace InfraAudit.Template

structure Reached where
  value : Value
  path : List Value

inductive Wanted where
  | all
  | tuples
  deriving DecidableEq, Repr

def Wanted.accepts : Wanted → Value → Bool
  | .all,_ => true
  | .tuples,v => v.isTuple

def report (w : Wanted) (v : Value) (path : List Value) : List Reached :=
  if w.accepts v then [⟨v,path⟩] else []

mutual

def objectCases (w : Wanted) (path : List Value) : Value → List Reached
  | .dict [(k,v)] =>
    if k == "Fn::If" then branchCases w (path ++ [.str k]) v
    else if k == "Ref" && v == "AWS::NoValue" then []
    else report w (.dict [(k,v)]) path
  | v => report w v path

def branchCases (w : Wanted) (path : List Value) : Value → List Reached
  | .list [_,a,b] => branch w (path ++ [.int 1]) a ++ branch w (path ++ [.int 2]) b
  | _ => []

def branch (w : Wanted) (path : List Value) : Value → List Reached
  | .dict fs => (objectCases .tuples path (.dict fs)).filter (fun r => w.accepts r.value)
  | v => report w v path

end

def listCases (w : Wanted) (path : List Value) (xs : List Value) : List Reached :=
  xs.zipIdx.flatMap fun (v,i) =>
    let path := path ++ [.int i]
    if v.isDict then (objectCases .tuples path v).filter (fun r => w.accepts r.value)
    else report w v path

def cases (v : Value) (path : List Value) : Result (List Reached) :=
  match v with
  | .dict _ => .ok (objectCases .all path v)
  | .list xs => .ok (listCases .all path xs)
  | .str _ => .error .noTemplateMember
  | _ => .error .noMember

def fieldCases (v key default : Value) (path : List Value) : Result (List Reached) :=
  match v with
  | .dict fs =>
    if !key.hashable then .error .wrongKind
    else
      let found := match key.text? with
        | some k => (fs.lookup k).getD default
        | none => default
      let path := path ++ [key]
      if found.isDict then .ok ((objectCases .tuples path found).filter (fun r => Wanted.all.accepts r.value))
      else .ok [⟨found,path⟩]
  | .list _ | .str _ => .error .noTemplateMember
  | _ => .error .noMember

end InfraAudit.Template
