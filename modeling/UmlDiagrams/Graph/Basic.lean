import UmlDiagrams.Change
import UmlDiagrams.Naming
/-!
# Diagram graphs

Named nodes joined by directed edges. Sequence, class, entity, activity, component and state
diagrams are all such graphs; they differ in what nodes and edges carry, in how an edge refers to a
node, and in whether parallel edges may agree.
-/

namespace UmlDiagrams

/-- An edge between the nodes with keys `source` and `target`. -/
structure Edge (κ ε : Type) where
  id : Id
  source : κ
  target : κ
  data : ε
deriving DecidableEq, Repr

/-- Nodes and edges in the order of their addition, the number of identifiers issued so far, and
the pending change notices. -/
structure Graph (κ ν ε : Type) where
  nodes : List ν := []
  edges : List (Edge κ ε) := []
  issued : Nat := 0
  changes : List Collection := []
deriving DecidableEq, Repr

/-- What distinguishes the graph of one diagram kind. -/
structure Rules (κ ν ε : Type) where
  kind : Kind
  nodes : Collection
  edges : Collection
  key : ν → κ
  name : ν → String
  reference : κ → Reference
  /-- Whether two edges with the same ends and these data would be duplicates. -/
  clash : ε → ε → Bool

namespace Rules

/-- Nodes are bare names, edges refer to them by name, and parallel edges are free. -/
def byName {ε : Type} (kind : Kind) (nodes edges : Collection) : Rules String String ε where
  kind := kind
  nodes := nodes
  edges := edges
  key := id
  name := id
  reference := .name
  clash := fun _ _ => false

end Rules

def requireNodes (collection : Collection) (needed found : Nat) : Except Rejection Unit :=
  if found < needed then .error (.notEnoughNodes collection needed found) else .ok ()

/-- The end of an edge: the requested node, which must exist, or by default the node at
`position`. -/
def pickEnd {κ : Type} [DecidableEq κ] (collection : Collection) (reference : κ → Reference)
    (keys : List κ) (requested : Option κ) (position : Nat) : Except Rejection κ :=
  match requested with
  | some key =>
    if key ∈ keys then .ok key else .error (.unknownEndpoint collection (reference key))
  | none =>
    match keys[position]? with
    | some key => .ok key
    | none => .error (.notEnoughNodes collection (position + 1) keys.length)

namespace Graph

variable {κ ν ε : Type} [DecidableEq κ]

def isEmpty (g : Graph κ ν ε) : Bool :=
  g.nodes.isEmpty && g.edges.isEmpty

def nextId (R : Rules κ ν ε) (g : Graph κ ν ε) : Id :=
  ⟨R.kind, g.issued⟩

def keys (R : Rules κ ν ε) (g : Graph κ ν ε) : List κ :=
  g.nodes.map R.key

def touch (touched : List Collection) (g : Graph κ ν ε) : Graph κ ν ε :=
  { g with changes := notice g.changes touched }

def findNode? (R : Rules κ ν ε) (g : Graph κ ν ε) (key : κ) : Option ν :=
  g.nodes.find? fun n => R.key n = key

def findEdge? (g : Graph κ ν ε) (id : Id) : Option (Edge κ ε) :=
  g.edges.find? fun e => e.id = id

/-- Whether an edge other than `skip` already has these ends and clashing data. -/
def hasDuplicate (R : Rules κ ν ε) (g : Graph κ ν ε) (skip : Option Id) (source target : κ)
    (data : ε) : Bool :=
  g.edges.any fun e =>
    some e.id ≠ skip && e.source = source && e.target = target && R.clash e.data data

def requireUnique (R : Rules κ ν ε) (g : Graph κ ν ε) (skip : Option Id) (source target : κ)
    (data : ε) : Except Rejection Unit :=
  if g.hasDuplicate R skip source target data then .error (.duplicateEdge R.edges) else .ok ()

def requireEdge (R : Rules κ ν ε) (g : Graph κ ν ε) (id : Id) : Except Rejection (Edge κ ε) :=
  match g.findEdge? id with
  | some edge => .ok edge
  | none => .error (.unknownRecord R.edges id)

def requireNode {ν ε : Type} (R : Rules Id ν ε) (g : Graph Id ν ε) (id : Id) :
    Except Rejection ν :=
  match g.findNode? R id with
  | some node => .ok node
  | none => .error (.unknownRecord R.nodes id)

def revisedNode {ν ε α : Type} (R : Rules Id ν ε) (g : Graph Id ν ε) (id : Id)
    (revise : ν → Except Rejection (α × ν)) : Except Rejection (α × ν) := do
  revise (← g.requireNode R id)

/-- The ends of a new edge. A missing source defaults to the first node, a missing target to the
second. -/
def newEnds (R : Rules κ ν ε) (g : Graph κ ν ε) (source target : Option κ) (data : ε) :
    Except Rejection (κ × κ) := do
  let keys := g.keys R
  requireNodes R.nodes 2 keys.length
  let source ← pickEnd R.nodes R.reference keys source 0
  let target ← pickEnd R.nodes R.reference keys target 1
  g.requireUnique R none source target data
  return (source, target)

def movedEdge (R : Rules κ ν ε) (g : Graph κ ν ε) (id : Id) (source target : κ) :
    Except Rejection (Edge κ ε) := do
  let source ← pickEnd R.nodes R.reference (g.keys R) (some source) 0
  let target ← pickEnd R.nodes R.reference (g.keys R) (some target) 1
  let edge ← g.requireEdge R id
  g.requireUnique R (some id) source target edge.data
  return { edge with source, target }

def retypedEdge (R : Rules κ ν ε) (g : Graph κ ν ε) (id : Id) (retype : ε → ε) :
    Except Rejection (Edge κ ε) := do
  let edge ← g.requireEdge R id
  g.requireUnique R (some id) edge.source edge.target (retype edge.data)
  return { edge with data := retype edge.data }

def countId (g : Graph κ ν ε) : Graph κ ν ε :=
  { g with issued := g.issued + 1 }

def withNode (node : ν) (g : Graph κ ν ε) : Graph κ ν ε :=
  { g with nodes := g.nodes ++ [node] }

/-- The graph without the node with the given key. The edges at it stay. -/
def withoutNode (R : Rules κ ν ε) (key : κ) (g : Graph κ ν ε) : Graph κ ν ε :=
  { g with nodes := g.nodes.filter fun n => R.key n ≠ key }

def withoutEdgesAt (key : κ) (g : Graph κ ν ε) : Graph κ ν ε :=
  { g with edges := g.edges.filter fun e => e.source ≠ key && e.target ≠ key }

def withEdge (edge : Edge κ ε) (g : Graph κ ν ε) : Graph κ ν ε :=
  { g with edges := g.edges ++ [edge] }

def withoutEdge (id : Id) (g : Graph κ ν ε) : Graph κ ν ε :=
  { g with edges := g.edges.filter fun e => e.id ≠ id }

def replaceEdge (edge : Edge κ ε) (g : Graph κ ν ε) : Graph κ ν ε :=
  { g with edges := g.edges.map fun e => if e.id = edge.id then edge else e }

def replaceNode (R : Rules κ ν ε) (node : ν) (g : Graph κ ν ε) : Graph κ ν ε :=
  { g with nodes := g.nodes.map fun n => if R.key n = R.key node then node else n }

end Graph

end UmlDiagrams
