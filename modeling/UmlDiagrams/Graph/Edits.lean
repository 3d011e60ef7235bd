import UmlDiagrams.Graph.Basic
/-!
# Edits of a graph

An edit checks what it is given, and only then changes the graph and notes what it changed. Removing
a node removes the edges at it.
-/

namespace UmlDiagrams.Graph

variable {κ ν ε α : Type} [DecidableEq κ]

def note (touched : List Collection) : Editing (Graph κ ν ε) Unit :=
  modify (touch touched)

def issue (R : Rules κ ν ε) : Editing (Graph κ ν ε) Id :=
  modifyGet fun g => (g.nextId R, g.countId)

def addNode (R : Rules κ ν ε) (name : String) (build : Id → String → ν) :
    Editing (Graph κ ν ε) Id := do
  let g ← get
  let name ← newName R.nodes (g.nodes.map R.name) name
  let id ← issue R
  modify (withNode (build id name))
  note [R.nodes]
  return id

/-- Removes the node with the given key and the edges at it; tells whether there was one. -/
def removeNode (R : Rules κ ν ε) (key : κ) : Editing (Graph κ ν ε) Bool := do
  let before := (← get).nodes.length
  modify (withoutNode R key)
  if (← get).nodes.length = before then return false
  modify (withoutEdgesAt key)
  note [R.nodes, R.edges]
  return true

def addEdge (R : Rules κ ν ε) (source target : Option κ) (data : ε) :
    Editing (Graph κ ν ε) Id := do
  let (source, target) ← (← get).newEnds R source target data
  let id ← issue R
  modify (withEdge ⟨id, source, target, data⟩)
  note [R.edges]
  return id

def removeEdge (R : Rules κ ν ε) (id : Id) : Editing (Graph κ ν ε) Bool := do
  let before := (← get).edges.length
  modify (withoutEdge id)
  let removed := (← get).edges.length != before
  if removed then note [R.edges]
  return removed

def retarget (R : Rules κ ν ε) (id : Id) (source target : κ) : Editing (Graph κ ν ε) Unit := do
  let edge ← (← get).movedEdge R id source target
  modify (replaceEdge edge)
  note [R.edges]

/-- Changes the data of an edge in a way that cannot make it a duplicate. -/
def reviseEdge (R : Rules κ ν ε) (id : Id) (revise : ε → ε) : Editing (Graph κ ν ε) Unit := do
  let edge ← (← get).requireEdge R id
  modify (replaceEdge { edge with data := revise edge.data })
  note [R.edges]

def retypeEdge (R : Rules κ ν ε) (id : Id) (retype : ε → ε) : Editing (Graph κ ν ε) Unit := do
  let edge ← (← get).retypedEdge R id retype
  modify (replaceEdge edge)
  note [R.edges]

def clear (R : Rules κ ν ε) (g : Graph κ ν ε) : Graph κ ν ε :=
  touch [R.nodes, R.edges] { g with nodes := [], edges := [] }

def reviseNode (R : Rules Id ν ε) (id : Id) (touched : Collection)
    (revise : ν → Except Rejection (α × ν)) : Editing (Graph Id ν ε) α := do
  let (answer, revised) ← (← get).revisedNode R id revise
  modify (replaceNode R revised)
  note [touched]
  return answer

def takeMember (collection : Collection) (members : List α) (index : Nat) :
    Except Rejection (α × List α) :=
  match members[index]? with
  | some member => .ok (member, members.eraseIdx index)
  | none => .error (.indexOutOfRange collection index members.length)

end UmlDiagrams.Graph
