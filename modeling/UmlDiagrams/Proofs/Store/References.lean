import UmlDiagrams.Proofs.Store.Addresses

namespace UmlDiagrams

namespace Record

def reference : Record → Reference
  | name text => .name text
  | message e => .id e.id
  | classRecord c => .id c.id
  | classRelationship e => .id e.id
  | useCaseLink l => .id l.id
  | entity e => .id e.id
  | erRelationship e => .id e.id
  | flow e => .id e.id
  | transition e => .id e.id

/-- The nodes of the collection `c` at which the edge is. A link is at one actor and at one use
case. -/
def endsIn (c : Collection) : Record → List Reference
  | message e => [.name e.source, .name e.target]
  | classRelationship e => [.id e.source, .id e.target]
  | useCaseLink l => if c = .useCases then [.name l.useCase] else [.name l.actor]
  | erRelationship e => [.id e.source, .id e.target]
  | flow e => [.name e.source, .name e.target]
  | transition e => [.name e.source, .name e.target]
  | _ => []

def title? : Record → Option String
  | name text => some text
  | classRecord c => some c.name
  | entity e => some e.name
  | _ => none

def Memberless : Record → Prop
  | classRecord c => c.attributes = [] ∧ c.methods = []
  | entity e => e.attributes = []
  | _ => True

end Record

namespace Collection

def edges? : Collection → Option Collection
  | actors => some messages
  | classes => some classRelationships
  | useCaseActors | useCases => some useCaseLinks
  | entities => some erRelationships
  | activities => some activityFlows
  | components => some componentDependencies
  | states => some stateTransitions
  | _ => none

theorem ne_of_edges? {c edges : Collection} (h : c.edges? = some edges) : edges ≠ c := by
  cases c <;> cases h <;> decide

end Collection

/-- The records of the graph are known by the keys of its nodes and the identifiers of its edges,
and the ends of its edges are such keys. -/
structure Slot.Refers {κ ν ε : Type} {R : Rules κ ν ε} (V : Slot R) : Prop where
  node : ∀ n, (V.node n).reference = R.reference (R.key n)
  edge : ∀ e, (V.edge e).reference = .id e.id
  ends : ∀ e, (V.edge e).endsIn R.nodes = [R.reference e.source, R.reference e.target]
  injective : Function.Injective R.reference
  edges? : R.nodes.edges? = some R.edges
  noEdges : R.edges.edges? = none

theorem SequenceDiagram.slot_refers : slot.Refers :=
  ⟨fun _ => rfl, fun _ => rfl, fun _ => rfl, fun _ _ h => Reference.name.inj h, rfl, rfl⟩

theorem ClassDiagram.slot_refers : slot.Refers :=
  ⟨fun _ => rfl, fun _ => rfl, fun _ => rfl, fun _ _ h => Reference.id.inj h, rfl, rfl⟩

theorem EntityDiagram.slot_refers : slot.Refers :=
  ⟨fun _ => rfl, fun _ => rfl, fun _ => rfl, fun _ _ h => Reference.id.inj h, rfl, rfl⟩

theorem FlowDiagram.activitySlot_refers : activitySlot.Refers :=
  ⟨fun _ => rfl, fun _ => rfl, fun _ => rfl, fun _ _ h => Reference.name.inj h, rfl, rfl⟩

theorem FlowDiagram.componentSlot_refers : componentSlot.Refers :=
  ⟨fun _ => rfl, fun _ => rfl, fun _ => rfl, fun _ _ h => Reference.name.inj h, rfl, rfl⟩

theorem StateDiagram.slot_refers : slot.Refers :=
  ⟨fun _ => rfl, fun _ => rfl, fun _ => rfl, fun _ _ h => Reference.name.inj h, rfl, rfl⟩

namespace Store

variable {s : Store} {c edges : Collection}

def references (s : Store) (c : Collection) : List Reference :=
  (s.records c).map Record.reference

private theorem nodup_references {α β : Type} {l : List α} {key : α → β} {record : α → Record}
    {reference : β → Reference} (hkeys : (l.map key).Nodup)
    (hinj : Function.Injective reference)
    (href : ∀ a, (record a).reference = reference (key a)) :
    ((l.map record).map Record.reference).Nodup := by
  have hmap : (l.map record).map Record.reference = (l.map key).map reference := by
    rw [List.map_map, List.map_map]
    exact List.map_congr_left fun a _ => href a
  rw [hmap]
  exact hkeys.map hinj

section

variable {κ ν ε : Type} {R : Rules κ ν ε} {V : Slot R} {Named : ν → Prop}

theorem references_nodes (hV : V.Refers) (s : Store) :
    s.references R.nodes = ((V.part s).keys R).map R.reference := by
  rw [references, V.nodes, Graph.keys, List.map_map, List.map_map]
  exact List.map_congr_left fun n _ => hV.node n

private theorem references_nodes_nodup (hV : V.Refers) (h : (V.part s).Sound R Named) :
    (s.references R.nodes).Nodup := by
  rw [references, V.nodes]
  exact nodup_references h.keys hV.injective hV.node

private theorem references_edges_nodup (hV : V.Refers) (h : (V.part s).Sound R Named) :
    (s.references R.edges).Nodup := by
  rw [references, V.edges]
  exact nodup_references h.edgeIds (fun _ _ h => Reference.id.inj h) hV.edge

private theorem ends_known (hV : V.Refers) (h : (V.part s).Sound R Named) {e : Record}
    (he : e ∈ s.records R.edges) : ∀ ref ∈ e.endsIn R.nodes, ref ∈ s.references R.nodes := by
  rw [V.edges] at he
  obtain ⟨edge, hedge, rfl⟩ := List.mem_map.mp he
  obtain ⟨hsource, htarget⟩ := h.ends edge hedge
  rw [references_nodes hV, hV.ends]
  intro ref href
  rcases List.mem_pair.mp href with rfl | rfl
  · exact List.mem_map_of_mem hsource
  · exact List.mem_map_of_mem htarget

end

theorem references_nodup (h : s.Sound) (c : Collection) : (s.references c).Nodup := by
  have hname : Function.Injective Reference.name := fun _ _ h => Reference.name.inj h
  have hid : Function.Injective Reference.id := fun _ _ h => Reference.id.inj h
  have hactors := nodeNames_nodup h .useCaseActors
  have huseCases := nodeNames_nodup h .useCases
  rw [← List.map_id (s.nodeNames _)] at hactors huseCases
  cases c with
  | actors => exact references_nodes_nodup SequenceDiagram.slot_refers h.sequence
  | messages => exact references_edges_nodup SequenceDiagram.slot_refers h.sequence
  | classes => exact references_nodes_nodup ClassDiagram.slot_refers h.classes
  | classRelationships => exact references_edges_nodup ClassDiagram.slot_refers h.classes
  | useCaseActors => exact nodup_references hactors hname fun _ => rfl
  | useCases => exact nodup_references huseCases hname fun _ => rfl
  | useCaseLinks => exact nodup_references h.useCase.linkIds hid fun _ => rfl
  | entities => exact references_nodes_nodup EntityDiagram.slot_refers h.entity
  | erRelationships => exact references_edges_nodup EntityDiagram.slot_refers h.entity
  | activities => exact references_nodes_nodup FlowDiagram.activitySlot_refers h.activity
  | activityFlows => exact references_edges_nodup FlowDiagram.activitySlot_refers h.activity
  | components => exact references_nodes_nodup FlowDiagram.componentSlot_refers h.component
  | componentDependencies =>
    exact references_edges_nodup FlowDiagram.componentSlot_refers h.component
  | states => exact references_nodes_nodup StateDiagram.slot_refers h.state
  | stateTransitions => exact references_edges_nodup StateDiagram.slot_refers h.state
  | classAttributes | classMethods | entityAttributes | style => exact List.nodup_nil

theorem mem_references_of_end (h : s.Sound) (hc : c.edges? = some edges) {e : Record}
    (he : e ∈ s.records edges) : ∀ ref ∈ e.endsIn c, ref ∈ s.references c := by
  cases c with
  | actors =>
    cases hc
    exact ends_known SequenceDiagram.slot_refers h.sequence he
  | classes =>
    cases hc
    exact ends_known ClassDiagram.slot_refers h.classes he
  | useCaseActors =>
    cases hc
    obtain ⟨l, hl, rfl⟩ := List.mem_map.mp he
    intro ref href
    rw [List.mem_singleton.mp href]
    exact List.mem_map_of_mem (List.mem_map_of_mem (h.useCase.ends l hl).1)
  | useCases =>
    cases hc
    obtain ⟨l, hl, rfl⟩ := List.mem_map.mp he
    intro ref href
    rw [List.mem_singleton.mp href]
    exact List.mem_map_of_mem (List.mem_map_of_mem (h.useCase.ends l hl).2)
  | entities =>
    cases hc
    exact ends_known EntityDiagram.slot_refers h.entity he
  | activities =>
    cases hc
    exact ends_known FlowDiagram.activitySlot_refers h.activity he
  | components =>
    cases hc
    exact ends_known FlowDiagram.componentSlot_refers h.component he
  | states =>
    cases hc
    exact ends_known StateDiagram.slot_refers h.state he
  | _ => cases hc

theorem nodeNames_eq_titles (hc : c.edges? = some edges) (s : Store) :
    s.nodeNames c = (s.records c).filterMap Record.title? := by
  have htitles {α : Type} {title : α → String} {record : α → Record}
      (h : ∀ a, (record a).title? = some (title a)) (l : List α) :
      l.map title = (l.map record).filterMap Record.title? := by
    rw [List.filterMap_map, ← List.filterMap_eq_map]
    exact congrArg (List.filterMap · l) (funext fun a => (h a).symm)
  cases c with
  | actors => exact htitles (fun _ => rfl) s.sequence.nodes
  | classes => exact htitles (fun _ => rfl) s.classes.nodes
  | useCaseActors => exact (List.map_id _).symm.trans (htitles (fun _ => rfl) s.useCase.actors)
  | useCases => exact (List.map_id _).symm.trans (htitles (fun _ => rfl) s.useCase.useCases)
  | entities => exact htitles (fun _ => rfl) s.entity.nodes
  | activities => exact htitles (fun _ => rfl) s.activity.nodes
  | components => exact htitles (fun _ => rfl) s.component.nodes
  | states => exact htitles (fun _ => rfl) s.state.nodes
  | _ => cases hc

end Store

end UmlDiagrams
