import UmlDiagrams.Graph.Edits
import UmlDiagrams.Proofs.Lists

namespace UmlDiagrams.Graph

variable {κ ν ε α : Type} (R : Rules κ ν ε) (g : Graph κ ν ε)

theorem addNode_run (name : String) (build : Id → String → ν) :
    (addNode R name build).run g =
      match newName R.nodes (g.nodes.map R.name) name with
      | .ok text =>
        .ok (g.nextId R) (touch [R.nodes] (withNode (build (g.nextId R) text) g.countId))
      | .error e => .error e g := by
  cases h : newName R.nodes (g.nodes.map R.name) name <;> simp [addNode, issue, note, h]

theorem reviseEdge_run (id : Id) (revise : ε → ε) :
    (reviseEdge R id revise).run g =
      match g.requireEdge R id with
      | .ok edge =>
        .ok () (touch [R.edges] (replaceEdge { edge with data := revise edge.data } g))
      | .error e => .error e g := by
  cases h : g.requireEdge R id <;> simp [reviseEdge, note, h]

theorem reviseNode_run (R : Rules Id ν ε) (g : Graph Id ν ε) (id : Id) (touched : Collection)
    (revise : ν → Except Rejection (α × ν)) :
    (reviseNode R id touched revise).run g =
      match g.revisedNode R id revise with
      | .ok (answer, node) => .ok answer (touch [touched] (replaceNode R node g))
      | .error e => .error e g := by
  cases h : g.revisedNode R id revise <;> simp [reviseNode, note, h]

theorem removeEdge_run (id : Id) :
    (removeEdge R id).run g =
      if id ∈ g.edges.map (·.id) then .ok true (touch [R.edges] (withoutEdge id g))
      else .ok false g := by
  by_cases h : id ∈ g.edges.map (·.id)
  · have hl : (withoutEdge id g).edges.length ≠ g.edges.length := length_filter_ne h
    rw [if_pos h]
    simp [removeEdge, note, hl]
  · have hg : withoutEdge id g = g := by
      rw [withoutEdge, filter_ne_eq_self h]
    rw [if_neg h]
    simp [removeEdge, hg]

variable [DecidableEq κ]

theorem addEdge_run (source target : Option κ) (data : ε) :
    (addEdge R source target data).run g =
      match g.newEnds R source target data with
      | .ok (a, b) =>
        .ok (g.nextId R) (touch [R.edges] (withEdge ⟨g.nextId R, a, b, data⟩ g.countId))
      | .error e => .error e g := by
  cases h : g.newEnds R source target data <;> simp [addEdge, issue, note, h]

theorem retarget_run (id : Id) (source target : κ) :
    (retarget R id source target).run g =
      match g.movedEdge R id source target with
      | .ok edge => .ok () (touch [R.edges] (replaceEdge edge g))
      | .error e => .error e g := by
  cases h : g.movedEdge R id source target <;> simp [retarget, note, h]

theorem retypeEdge_run (id : Id) (retype : ε → ε) :
    (retypeEdge R id retype).run g =
      match g.retypedEdge R id retype with
      | .ok edge => .ok () (touch [R.edges] (replaceEdge edge g))
      | .error e => .error e g := by
  cases h : g.retypedEdge R id retype <;> simp [retypeEdge, note, h]

theorem removeNode_run (key : κ) :
    (removeNode R key).run g =
      if key ∈ g.keys R then
        .ok true (touch [R.nodes, R.edges] (withoutEdgesAt key (withoutNode R key g)))
      else .ok false g := by
  by_cases h : key ∈ g.keys R
  · have hl : (withoutNode R key g).nodes.length ≠ g.nodes.length := length_filter_ne h
    rw [if_pos h]
    simp [removeNode, note, hl]
  · have hg : withoutNode R key g = g := by
      rw [withoutNode, filter_ne_eq_self h]
    rw [if_neg h]
    simp [removeNode, hg]

end UmlDiagrams.Graph
