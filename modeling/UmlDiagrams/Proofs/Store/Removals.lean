import UmlDiagrams.Proofs.Store.References

namespace UmlDiagrams

open Stateful

/-- The edits that remove the record of a collection that is known by a reference. -/
inductive RemovesBy : Reference → Collection → Edit → Prop
  | actor (name : String) :
    RemovesBy (.name name) .actors (.sequence (.removeActor name))
  | message (id : Id) :
    RemovesBy (.id id) .messages (.sequence (.removeMessage id))
  | classRecord (id : Id) :
    RemovesBy (.id id) .classes (.classes (.removeClass id))
  | classRelationship (id : Id) :
    RemovesBy (.id id) .classRelationships (.classes (.removeRelationship id))
  | useCaseActor (name : String) :
    RemovesBy (.name name) .useCaseActors (.useCase (.removeActor name))
  | useCase (name : String) :
    RemovesBy (.name name) .useCases (.useCase (.removeUseCase name))
  | useCaseLink (id : Id) :
    RemovesBy (.id id) .useCaseLinks (.useCase (.removeLink id))
  | entity (id : Id) :
    RemovesBy (.id id) .entities (.entity (.removeEntity id))
  | erRelationship (id : Id) :
    RemovesBy (.id id) .erRelationships (.entity (.removeRelationship id))
  | activity (name : String) :
    RemovesBy (.name name) .activities (.activity (.removeNode name))
  | activityFlow (id : Id) :
    RemovesBy (.id id) .activityFlows (.activity (.removeEdge id))
  | component (name : String) :
    RemovesBy (.name name) .components (.component (.removeNode name))
  | componentDependency (id : Id) :
    RemovesBy (.id id) .componentDependencies (.component (.removeEdge id))
  | state (name : String) :
    RemovesBy (.name name) .states (.state (.removeState name))
  | stateTransition (id : Id) :
    RemovesBy (.id id) .stateTransitions (.state (.removeTransition id))

namespace Store

variable {s : Store} {c : Collection} {r : Record} {ref : Reference} {removal : Edit}

theorem exists_removesBy (hr : r ∈ s.records c) : ∃ removal, RemovesBy r.reference c removal := by
  cases c with
  | classAttributes | classMethods | entityAttributes | style => cases hr
  | _ =>
    obtain ⟨_, -, rfl⟩ := List.mem_map.mp hr
    exact ⟨_, by constructor⟩

/-- The records without the one that is known by the reference, and without the edges at it. -/
def without (s : Store) (c : Collection) (ref : Reference) (c' : Collection) : List Record :=
  if c' = c then (s.records c').filter fun r => r.reference ≠ ref
  else if c.edges? = some c' then (s.records c').filter fun e => ref ∉ e.endsIn c
  else s.records c'

def TakesOut (s : Store) (c : Collection) (ref : Reference) (removal : Edit) : Prop :=
  (apply removal).outcome s = .ok (.removed true) ∧
    ((apply removal).after s).records = s.without c ref

private theorem takesOut_of_run {σ : Type} {L : Part σ} {x : Editing σ Bool} {t : σ}
    (hremoval : apply removal =
      within L.part L.put (x >>= fun found => pure (.removed found)))
    (hrun : x.run (L.part s) = .ok true t) (hrecords : (L.put s t).records = s.without c ref) :
    s.TakesOut c ref removal := by
  rw [TakesOut, hremoval]
  refine ⟨?_, ?_⟩
  · rw [outcome_within, outcome_answer, outcome, hrun]
    rfl
  · rw [after_within, after_answer, after_of_run_ok hrun, hrecords]

section

variable {κ ν ε : Type} {R : Rules κ ν ε} {V : Slot R}

private theorem takesOut_node [DecidableEq κ] (hV : V.Refers) {key : κ}
    (href : R.reference key ∈ s.references R.nodes)
    (hremoval : apply removal =
      within V.part V.put (Graph.removeNode R key >>= fun found => pure (.removed found))) :
    s.TakesOut R.nodes (R.reference key) removal := by
  have hkey : key ∈ (V.part s).keys R := by
    rw [references_nodes hV] at href
    exact (List.mem_map_of_injective hV.injective).mp href
  have hrun := Graph.removeNode_run R (V.part s) key
  rw [if_pos hkey] at hrun
  refine takesOut_of_run (L := V.toPart) hremoval hrun (funext fun c => ?_)
  refine (V.put_records s _ c).trans ?_
  rw [without, hV.edges?]
  by_cases hn : c = R.nodes
  · rw [if_pos hn, if_pos hn, hn, V.nodes]
    exact (filter_map_of fun n _ => by simp [hV.node, hV.injective.eq_iff]).symm
  · rw [if_neg hn, if_neg hn]
    by_cases he : c = R.edges
    · rw [if_pos he, if_pos (congrArg some he.symm), he, V.edges]
      refine (filter_map_of fun e _ => ?_).symm
      simp [hV.ends, hV.injective.eq_iff, eq_comm]
    · rw [if_neg he, if_neg fun h => he (Option.some.inj h).symm]

private theorem takesOut_edge (hV : V.Refers) {id : Id} (href : .id id ∈ s.references R.edges)
    (hremoval : apply removal =
      within V.part V.put (Graph.removeEdge R id >>= fun found => pure (.removed found))) :
    s.TakesOut R.edges (.id id) removal := by
  have hid : id ∈ (V.part s).edges.map (·.id) := by
    rw [references, V.edges, List.map_map] at href
    obtain ⟨e, he, heq⟩ := List.mem_map.mp href
    rw [Function.comp_apply, hV.edge, Reference.id.injEq] at heq
    exact List.mem_map.mpr ⟨e, he, heq⟩
  have hrun := Graph.removeEdge_run R (V.part s) id
  rw [if_pos hid] at hrun
  refine takesOut_of_run (L := V.toPart) hremoval hrun (funext fun c => ?_)
  refine (congrFun (V.put_edges (by rfl)) c).trans ?_
  rw [without, hV.noEdges, Function.update_apply]
  by_cases hc : c = R.edges
  · rw [if_pos hc, if_pos hc, hc, V.edges]
    exact (filter_map_of fun e _ => by simp [hV.edge]).symm
  · rw [if_neg hc, if_neg hc, if_neg (Option.some_ne_none c).symm]

end

private theorem takesOut_useCaseActor {name : String}
    (href : .name name ∈ s.references .useCaseActors) :
    s.TakesOut .useCaseActors (.name name) (.useCase (.removeActor name)) := by
  have hname : name ∈ s.useCase.actors := by
    simpa [references, records, Record.reference] using href
  have hrun := s.useCase.removeActor_run name
  rw [if_pos hname] at hrun
  refine takesOut_of_run (L := Part.useCase) rfl hrun (funext fun c => ?_)
  cases c with
  | useCaseActors => exact (filter_map_of fun n _ => by simp [Record.reference]).symm
  | useCaseLinks => exact (filter_map_of fun l _ => by simp [Record.endsIn, eq_comm]).symm
  | _ => rfl

private theorem takesOut_useCase {name : String} (href : .name name ∈ s.references .useCases) :
    s.TakesOut .useCases (.name name) (.useCase (.removeUseCase name)) := by
  have hname : name ∈ s.useCase.useCases := by
    simpa [references, records, Record.reference] using href
  have hrun := s.useCase.removeUseCase_run name
  rw [if_pos hname] at hrun
  refine takesOut_of_run (L := Part.useCase) rfl hrun (funext fun c => ?_)
  cases c with
  | useCases => exact (filter_map_of fun n _ => by simp [Record.reference]).symm
  | useCaseLinks => exact (filter_map_of fun l _ => by simp [Record.endsIn, eq_comm]).symm
  | _ => rfl

private theorem takesOut_useCaseLink {id : Id} (href : .id id ∈ s.references .useCaseLinks) :
    s.TakesOut .useCaseLinks (.id id) (.useCase (.removeLink id)) := by
  have hid : id ∈ s.useCase.links.map (·.id) := by
    simpa [references, records, Record.reference] using href
  have hrun := s.useCase.removeLink_run id
  rw [if_pos hid] at hrun
  refine takesOut_of_run (L := Part.useCase) rfl hrun (funext fun c => ?_)
  cases c with
  | useCaseLinks => exact (filter_map_of fun l _ => by simp [Record.reference]).symm
  | _ => rfl

/-- Whatever is there is found by its reference. -/
theorem removesBy_takesOut (h : RemovesBy ref c removal) (href : ref ∈ s.references c) :
    s.TakesOut c ref removal := by
  cases h with
  | actor name => exact takesOut_node SequenceDiagram.slot_refers href rfl
  | message id => exact takesOut_edge SequenceDiagram.slot_refers href rfl
  | classRecord id => exact takesOut_node ClassDiagram.slot_refers href rfl
  | classRelationship id => exact takesOut_edge ClassDiagram.slot_refers href rfl
  | useCaseActor name => exact takesOut_useCaseActor href
  | useCase name => exact takesOut_useCase href
  | useCaseLink id => exact takesOut_useCaseLink href
  | entity id => exact takesOut_node EntityDiagram.slot_refers href rfl
  | erRelationship id => exact takesOut_edge EntityDiagram.slot_refers href rfl
  | activity name => exact takesOut_node FlowDiagram.activitySlot_refers href rfl
  | activityFlow id => exact takesOut_edge FlowDiagram.activitySlot_refers href rfl
  | component name => exact takesOut_node FlowDiagram.componentSlot_refers href rfl
  | componentDependency id => exact takesOut_edge FlowDiagram.componentSlot_refers href rfl
  | state name => exact takesOut_node StateDiagram.slot_refers href rfl
  | stateTransition id => exact takesOut_edge StateDiagram.slot_refers href rfl

end Store

end UmlDiagrams
