import UmlDiagrams.Proofs.Effects
import UmlDiagrams.Proofs.Graph.Checks
import UmlDiagrams.Proofs.Graph.Edits
/-!
# What an accepted edit of a graph does

Each edit has a relation between the graph before and the graph after, which says all that the edit
does when it is accepted. A rejected edit does nothing.
-/

namespace UmlDiagrams.Graph

open Stateful

variable {κ ν ε α : Type} {R : Rules κ ν ε}

def AddedNode (R : Rules κ ν ε) (name : String) (build : Id → String → ν)
    (g g' : Graph κ ν ε) : Prop :=
  ∃ text, newName R.nodes (g.nodes.map R.name) name = .ok text ∧
    g' = touch [R.nodes] (withNode (build (g.nextId R) text) g.countId)

/-- An edge with the given identifier was replaced by one with the same identifier. -/
def ChangedEdge (R : Rules κ ν ε) (id : Id) (g g' : Graph κ ν ε) : Prop :=
  ∃ old ∈ g.edges, ∃ edge, old.id = id ∧ edge.id = id ∧
    g' = touch [R.edges] (replaceEdge edge g)

def RemovedEdge (R : Rules κ ν ε) (id : Id) (g g' : Graph κ ν ε) : Prop :=
  id ∈ g.edges.map (·.id) ∧ g' = touch [R.edges] (withoutEdge id g)

/-- The record with the given identifier was replaced by another one, as far as `Keeps` allows. -/
def ChangedNode (R : Rules Id ν ε) (id : Id) (touched : Collection) (Keeps : ν → ν → Prop)
    (g g' : Graph Id ν ε) : Prop :=
  ∃ old ∈ g.nodes, ∃ node, R.key old = id ∧ Keeps old node ∧
    g' = touch [touched] (replaceNode R node g)

theorem addNode_effects (name : String) (build : Id → String → ν) :
    Effects (fun _ => False) (AddedNode R name build) (addNode R name build) := by
  intro g
  rw [addNode_run]
  cases h : newName R.nodes (g.nodes.map R.name) name with
  | error e => exact .failed e
  | ok text => exact .accepted _ _ not_false ⟨text, h, rfl⟩

theorem reviseEdge_effects (id : Id) (revise : ε → ε) :
    Effects (fun _ => False) (ChangedEdge R id) (reviseEdge R id revise) := by
  intro g
  rw [reviseEdge_run]
  cases h : g.requireEdge R id with
  | error e => exact .failed e
  | ok edge =>
    obtain ⟨hmem, hid⟩ := requireEdge_eq_ok h
    exact .accepted _ _ not_false
      ⟨edge, hmem, { edge with data := revise edge.data }, hid, hid, rfl⟩

theorem removeEdge_effects (id : Id) :
    Effects (· = false) (RemovedEdge R id) (removeEdge R id) := by
  intro g
  rw [removeEdge_run]
  by_cases h : id ∈ g.edges.map (·.id)
  · rw [if_pos h]
    exact .accepted _ _ Bool.true_eq_false.mp ⟨h, rfl⟩
  · rw [if_neg h]
    exact .refused _ rfl

theorem reviseNode_effects {R : Rules Id ν ε} {id : Id} {touched : Collection}
    {Refuses : α → Prop} {Keeps : ν → ν → Prop} {revise : ν → Except Rejection (α × ν)}
    (hrevise : ∀ old answer node, revise old = .ok (answer, node) →
      ¬ Refuses answer ∧ Keeps old node) :
    Effects Refuses (ChangedNode R id touched Keeps) (reviseNode R id touched revise) := by
  intro g
  rw [reviseNode_run]
  cases h : g.revisedNode R id revise with
  | error e => exact .failed e
  | ok result =>
    obtain ⟨answer, node⟩ := result
    obtain ⟨old, hmem, hkey, heq⟩ := revisedNode_eq_ok h
    obtain ⟨hanswer, hkeeps⟩ := hrevise old answer node heq
    exact .accepted _ _ hanswer ⟨old, hmem, node, hkey, hkeeps, rfl⟩

variable [DecidableEq κ]

def RemovedNode (R : Rules κ ν ε) (key : κ) (g g' : Graph κ ν ε) : Prop :=
  key ∈ g.keys R ∧ g' = touch [R.nodes, R.edges] (withoutEdgesAt key (withoutNode R key g))

def AddedEdge (R : Rules κ ν ε) (source target : Option κ) (data : ε) (g g' : Graph κ ν ε) : Prop :=
  ∃ a b, g.newEnds R source target data = .ok (a, b) ∧
    g' = touch [R.edges] (withEdge ⟨g.nextId R, a, b, data⟩ g.countId)

theorem removeNode_effects (key : κ) :
    Effects (· = false) (RemovedNode R key) (removeNode R key) := by
  intro g
  rw [removeNode_run]
  by_cases h : key ∈ g.keys R
  · rw [if_pos h]
    exact .accepted _ _ Bool.true_eq_false.mp ⟨h, rfl⟩
  · rw [if_neg h]
    exact .refused _ rfl

theorem addEdge_effects (source target : Option κ) (data : ε) :
    Effects (fun _ => False) (AddedEdge R source target data) (addEdge R source target data) := by
  intro g
  rw [addEdge_run]
  cases h : g.newEnds R source target data with
  | error e => exact .failed e
  | ok ends => exact .accepted _ _ not_false ⟨ends.1, ends.2, h, rfl⟩

theorem retarget_effects (id : Id) (source target : κ) :
    Effects (fun _ => False) (ChangedEdge R id) (retarget R id source target) := by
  intro g
  rw [retarget_run]
  cases h : g.movedEdge R id source target with
  | error e => exact .failed e
  | ok edge =>
    obtain ⟨-, -, ⟨old, hmem, hid, rfl⟩, -⟩ := movedEdge_eq_ok h
    exact .accepted _ _ not_false ⟨old, hmem, { old with source, target }, hid, hid, rfl⟩

theorem retypeEdge_effects (id : Id) (retype : ε → ε) :
    Effects (fun _ => False) (ChangedEdge R id) (retypeEdge R id retype) := by
  intro g
  rw [retypeEdge_run]
  cases h : g.retypedEdge R id retype with
  | error e => exact .failed e
  | ok edge =>
    obtain ⟨⟨old, hmem, hid, rfl⟩, -⟩ := retypedEdge_eq_ok h
    exact .accepted _ _ not_false
      ⟨old, hmem, { old with data := retype old.data }, hid, hid, rfl⟩

end UmlDiagrams.Graph
