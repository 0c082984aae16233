import InfraAudit.Graph.Basic
import InfraAudit.Policy.Condition

namespace InfraAudit.Policy

structure Vertex where
  attributes : Fields
  linked : Option Nat := none
  deriving Inhabited

structure Net where
  vertices : Array Vertex := #[]
  edges : List (Nat × Nat) := []
  deriving Inhabited

namespace Net

def attributes (g : Net) (i : Nat) : Fields := (g.vertices.getD i default).attributes

variable (g : Net) (i : Nat)

def get? (key : String) : Option Value := (g.attributes i).lookup key

def get (g : Net) (i : Nat) (key : String) : Result Value := (g.get? i key).elim (.error .missingKey) .ok

def nodes : List Nat := List.range g.vertices.size

def linkKey : String := "connected_node"

def dataWithin (g : Net) : Nat → Nat → Fields
  | 0,i => g.attributes i
  | n+1,i =>
    match (g.vertices.getD i default).linked with
    | some u => Fields.insert linkKey (.dict (g.dataWithin n u)) (g.attributes i)
    | none => g.attributes i

def linkDepth : Nat := 32

/-- Links may form a circle, so they are followed for so many steps only. -/
def data : Fields := g.dataWithin linkDepth i

def store (fs : Fields) : Net :=
  {g with vertices := g.vertices.modify i fun v => {v with attributes := v.attributes ++ fs}}

def link (v u : Nat) : Net := {g with vertices := g.vertices.modify v fun w => {w with linked := some u}}

def addEdge (es : List (Nat × Nat)) (e : Nat × Nat) : List (Nat × Nat) := if es.contains e then es else es ++ [e]

def ofParts (blocks : List Fields) (edges : List (Nat × Nat)) : Net :=
  {vertices := (blocks.map fun b => {attributes := b}).toArray, edges := edges.foldl addEdge []}

def placeOf (digests : List String) (d : String) : Nat := digests.findIdx (· == d)

/-- Blocks with one digest become one vertex, with what the last of them says. -/
def ofGraph (g : Graph) : Net :=
  let views := g.vertices.toList.map fun b => b.attributeView true
  let digests := views.map fun fs => ((fs.lookup "hash").bind Value.text?).getD ""
  let places := digests.eraseDups
  let merged := places.map fun d =>
    (views.zip digests).foldl (fun fs (view,d') => if d' == d then Fields.update fs view else fs) []
  let place (i : Nat) : Nat := placeOf places (digests.getD i "")
  ofParts merged (g.edges.map fun e => (place e.origin,place e.dest))

def alike (i j : Nat) : Bool :=
  i == j || (i < g.vertices.size && j < g.vertices.size && Value.eq (.dict (g.data i)) (.dict (g.data j)))

def isAmong (vs : List Nat) : Bool := vs.contains i || vs.any (g.alike i)

def out (nodes : List Nat) (v : Nat) : List (Nat × Nat) := g.edges.filter fun (a,b) => a == v && nodes.contains b

structure Walk where
  stack : List Nat
  left : List (Nat × List (Nat × Nat)) := []

def Walk.remaining (w : Walk) (v : Nat) : Option (List (Nat × Nat)) := w.left.lookup v

def Walk.setRemaining (w : Walk) (v : Nat) (es : List (Nat × Nat)) : Walk :=
  {w with left := (v,es) :: w.left.filter (·.1 != v)}

def walk (g : Net) (nodes : List Nat) : Nat → Walk → List (Nat × Nat) × Walk
  | 0,w => ([],w)
  | n+1,w =>
    match w.stack with
    | [] => ([],w)
    | v::back =>
      match (w.remaining v).getD (g.out nodes v) with
      | [] => g.walk nodes n {w.setRemaining v [] with stack := back}
      | e::es =>
        let (rest,w) := g.walk nodes n {w.setRemaining v es with stack := e.2 :: v :: back}
        (e::rest,w)

def edgesInOrder (nodes : List Nat) : List (Nat × Nat) :=
  let fuel := 2*g.edges.length+nodes.length+2
  (nodes.foldl (fun (acc : List (Nat × Nat) × Walk) v =>
    let (es,w) := g.walk nodes fuel {acc.2 with stack := [v]}
    (acc.1 ++ es,w)) ([],{stack := []})).1

end Net

end InfraAudit.Policy
