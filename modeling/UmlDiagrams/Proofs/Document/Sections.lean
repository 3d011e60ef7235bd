import UmlDiagrams.Proofs.Document.Names
import UmlDiagrams.Proofs.Document.Records
import UmlDiagrams.Proofs.UseCase.Listing

namespace UmlDiagrams

open Stateful UmlDiagrams.Graph

namespace Part

def sequence : Part SequenceDiagram where
  part := (·.sequence)
  put := ({ · with sequence := · })
  part_put _ _ := rfl
  put_part _ := rfl
  put_put _ _ _ := rfl

def classes : Part ClassDiagram where
  part := (·.classes)
  put := ({ · with classes := · })
  part_put _ _ := rfl
  put_part _ := rfl
  put_put _ _ _ := rfl

def useCase : Part UseCaseDiagram where
  part := (·.useCase)
  put := ({ · with useCase := · })
  part_put _ _ := rfl
  put_part _ := rfl
  put_put _ _ _ := rfl

def entity : Part EntityDiagram where
  part := (·.entity)
  put := ({ · with entity := · })
  part_put _ _ := rfl
  put_part _ := rfl
  put_put _ _ _ := rfl

def activity : Part FlowDiagram where
  part := (·.activity)
  put := ({ · with activity := · })
  part_put _ _ := rfl
  put_part _ := rfl
  put_put _ _ _ := rfl

def component : Part FlowDiagram where
  part := (·.component)
  put := ({ · with component := · })
  part_put _ _ := rfl
  put_part _ := rfl
  put_put _ _ _ := rfl

def state : Part StateDiagram where
  part := (·.state)
  put := ({ · with state := · })
  part_put _ _ := rfl
  put_part _ := rfl
  put_put _ _ _ := rfl

end Part

variable {s : Store}

theorem SequenceSection.replays (c : SequenceSection) (hs : s.sequence = {}) :
    s.Replays c.steps
      (SequenceDiagram.rules.Fits c.names (c.messages.map (·.edge)) ∧
        EnoughNodes c.names c.messages)
      (fun s' => ∃ d : SequenceDiagram, (Sound SequenceDiagram.rules Text.IsName d ∧
        SequenceDiagram.listed d = c.completed) ∧ s' = { s with sequence := d })
      fun e => SequenceDiagram.rules.Fits c.names (c.messages.map (·.edge)) →
        LacksNodes .actors c.names c.messages e := by
  have hadd (n : String) : Store.apply (.sequence (.addActor n)) =
      within Part.sequence.part Part.sequence.put (addName .sequence .actors .messages n) := rfl
  have hlink (m : MessageSpec) :
      Store.apply (.sequence (.addMessage m.source m.target m.arrow m.text)) =
        within Part.sequence.part Part.sequence.put
          (linkNames .sequence .actors .messages m.edge) := rfl
  have hreplay := names_replay hs hadd hlink "sequence actor" "sequence message" c.actors
    c.messages
  refine hreplay.imp Iff.rfl (fun s' _ h => ?_) fun _ _ h => h
  obtain ⟨d, ⟨hsound, hnodes, hedges⟩, rfl⟩ := h
  refine ⟨d, ⟨hsound, ?_⟩, rfl⟩
  have hmessages := congrArg
    (List.map fun e => (⟨e.source, e.target, e.data.arrow, e.data.text⟩ : MessageSpec)) hedges
  rw [List.map_map, List.map_map, List.map_map] at hmessages
  exact congrArg₂ SequenceSection.mk hnodes hmessages

theorem FlowSection.replays {L : Part FlowDiagram} {kind : Kind} {nodes edges : Collection}
    {edit : FlowEdit → Edit} (hs : L.part s = {})
    (hedit : ∀ e, Store.apply (edit e) =
      within L.part L.put (FlowDiagram.apply (.byName kind nodes edges) e))
    (node edge : String) (c : FlowSection) :
    s.Replays (c.steps node edge edit)
      ((Rules.byName kind nodes edges : Rules String String Unit).Fits c.names
          (c.edges.map (·.edge)) ∧
        EnoughNodes c.names c.edges)
      (fun s' => ∃ d : FlowDiagram, (Sound (.byName kind nodes edges) Text.IsName d ∧
        FlowDiagram.listed d = c.completed) ∧ s' = L.put s d)
      fun e => (Rules.byName kind nodes edges : Rules String String Unit).Fits c.names
          (c.edges.map (·.edge)) →
        LacksNodes nodes c.names c.edges e := by
  have hadd (n : String) : Store.apply (edit (.addNode n)) =
      within L.part L.put (addName kind nodes edges n) := hedit _
  have hlink (f : FlowSpec) : Store.apply (edit (.addEdge f.source f.target)) =
      within L.part L.put (linkNames kind nodes edges f.edge) := hedit _
  have hreplay := names_replay hs hadd hlink node edge c.nodes c.edges
  refine hreplay.imp Iff.rfl (fun s' _ h => ?_) fun _ _ h => h
  obtain ⟨d, ⟨hsound, hnodes, hedges⟩, rfl⟩ := h
  refine ⟨d, ⟨hsound, ?_⟩, rfl⟩
  have hflows := congrArg (List.map fun e => (⟨e.source, e.target⟩ : FlowSpec)) hedges
  rw [List.map_map, List.map_map, List.map_map] at hflows
  exact congrArg₂ FlowSection.mk hnodes hflows

theorem StateSection.replays (c : StateSection) (hs : s.state = {}) :
    s.Replays c.steps
      (StateDiagram.rules.Fits c.names (c.transitions.map (·.edge)) ∧
        EnoughNodes c.names c.transitions)
      (fun s' => ∃ d : StateDiagram, (Sound StateDiagram.rules Text.IsName d ∧
        StateDiagram.listed d = c.completed) ∧ s' = { s with state := d })
      fun e => StateDiagram.rules.Fits c.names (c.transitions.map (·.edge)) →
        LacksNodes .states c.names c.transitions e := by
  have hadd (n : String) : Store.apply (.state (.addState n)) =
      within Part.state.part Part.state.put (addName .state .states .stateTransitions n) := rfl
  have hlink (t : TransitionSpec) :
      Store.apply (.state (.addTransition t.source t.target t.event)) =
        within Part.state.part Part.state.put
          (linkNames .state .states .stateTransitions t.edge) := rfl
  have hreplay := names_replay hs hadd hlink "state" "state transition" c.states c.transitions
  refine hreplay.imp Iff.rfl (fun s' _ h => ?_) fun _ _ h => h
  obtain ⟨d, ⟨hsound, hnodes, hedges⟩, rfl⟩ := h
  refine ⟨d, ⟨hsound, ?_⟩, rfl⟩
  have htransitions := congrArg
    (List.map fun e => (⟨e.source, e.target, e.data⟩ : TransitionSpec)) hedges
  rw [List.map_map, List.map_map, List.map_map] at htransitions
  exact congrArg₂ StateSection.mk hnodes htransitions

theorem UseCaseSection.steps_perform (c : UseCaseSection) :
    List.Forall₂ (Step.Performs Part.useCase) c.steps
      ((c.actors.map fun n => UseCaseDiagram.apply (.addActor n)) ++
        (c.useCases.map fun n => UseCaseDiagram.apply (.addUseCase n)) ++
        c.links.map fun l => UseCaseDiagram.apply (.addLink l.actor l.useCase)) := by
  have hedit (e : UseCaseEdit) : Store.apply (.useCase e) =
      within Part.useCase.part Part.useCase.put (UseCaseDiagram.apply e) := rfl
  have hactors := nodeSteps_perform (fun n => hedit (.addActor n)) "use-case actor" c.actors
  have huseCases := nodeSteps_perform (fun n => hedit (.addUseCase n)) "use case" c.useCases
  have hlinks := edgeSteps_perform
    (fun l : LinkSpec => performs_edit (hedit (.addLink l.actor l.useCase))) "use-case link" c.links
  exact List.rel_append (List.rel_append hactors huseCases) hlinks

theorem UseCaseSection.replays (c : UseCaseSection) (hs : s.useCase = {}) :
    s.Replays c.steps (c.Fits ∧ c.EnoughNodes)
      (fun s' => ∃ d : UseCaseDiagram, (d.Sound ∧ d.listed = c.completed) ∧
        s' = { s with useCase := d })
      fun e => c.Fits →
        c.links ≠ [] ∧ UseCaseDiagram.LacksEnd c.actorNames c.useCaseNames e := by
  have hdecides := UseCaseDiagram.listed_decides c
  have hpart : Part.useCase.part s = {} := hs
  rw [← hpart] at hdecides
  exact Store.replays_within c.steps_perform hdecides

private theorem linkRecords_run {ν ε : Type} (R : Rules Id ν ε) (spec : EdgeSpec ε)
    (g : Graph Id ν ε) :
    (linkRecords R spec).run g =
      match g.namedEnds R spec with
      | .ok (source, target) =>
        (addEdge R source target spec.data >>= fun id => pure (Reply.created id)).run g
      | .error e => .error e g := by
  rw [linkRecords, EStateM.run_bind, linkNamed_run]
  cases g.namedEnds R spec <;> rfl

private theorem performs_relationship {ν ε : Type} {R : Rules Id ν ε} {L : Part (Graph Id ν ε)}
    {action : Action} {edit : Option Id → Option Id → Edit} {spec : EdgeSpec ε}
    (hresolve : ∀ s, action.resolve s = do
      let ends ← (L.part s).namedEnds R spec
      return edit ends.1 ends.2)
    (hedit : ∀ source target, Store.apply (edit source target) = within L.part L.put
      (addEdge R source target spec.data >>= fun id => pure (Reply.created id)))
    (place : Place) : Step.Performs L ⟨place, action⟩ (linkRecords R spec) := by
  intro s
  rw [Action.perform_run, linkRecords_run]
  cases hends : (L.part s).namedEnds R spec with
  | error e =>
    have herror : action.resolve s = .error e := by
      rw [hresolve, hends]
      rfl
    rw [herror]
    exact congrArg _ (L.put_part s).symm
  | ok ends =>
    obtain ⟨source, target⟩ := ends
    have hok : action.resolve s = .ok (edit source target) := by
      rw [hresolve, hends]
      rfl
    rw [hok]
    dsimp only
    rw [hedit, run_within]
    generalize EStateM.run (addEdge R source target spec.data >>= _) (L.part s) = result
    cases result <;> rfl

/-- Lists of steps, one for each listed record, perform the lists of its edits. -/
private theorem recordSteps_perform {τ α : Type} {L : Part τ} {steps : α → List Step}
    {ops : α → List (Editing τ Reply)}
    (h : ∀ a, List.Forall₂ (Step.Performs L) (steps a) (ops a)) (as : List α) :
    List.Forall₂ (Step.Performs L) (as.flatMap steps) (as.flatMap ops) := by
  induction as with
  | nil => exact .nil
  | cons a as ih => exact List.rel_append (h a) ih

private theorem memberSteps_perform {τ μ : Type} {L : Part τ} {action : μ → Action}
    {x : μ → Editing τ Reply} (h : ∀ m place, Step.Performs L ⟨place, action m⟩ (x m))
    (place : μ → Place) (ms : List μ) :
    List.Forall₂ (Step.Performs L) (ms.map fun m => ⟨place m, action m⟩) (ms.map x) := by
  induction ms with
  | nil => exact .nil
  | cons m ms ih => exact .cons (h m _) ih

private theorem ClassSpec.steps_perform (c : ClassSpec) :
    List.Forall₂ (Step.Performs Part.classes) c.steps (ClassDiagram.addListed c) := by
  have hedit (e : ClassEdit) : Store.apply (.classes e) =
      within Part.classes.part Part.classes.put (ClassDiagram.apply e) := rfl
  have hattribute (a : ClassAttribute) : ∀ place, Step.Performs Part.classes
      ⟨place, .classAttribute a⟩ (ClassDiagram.addLastAttribute a) := by
    refine performs_of_resolve fun s => ⟨_, _, rfl, hedit _, ?_⟩
    rw [ClassDiagram.apply_addAttribute]
    exact addLast_run a s.classes
  have hmethod (m : ClassMethod) : ∀ place, Step.Performs Part.classes
      ⟨place, .classMethod m⟩ (ClassDiagram.addLastMethod m) := by
    refine performs_of_resolve fun s => ⟨_, _, rfl, hedit _, ?_⟩
    rw [ClassDiagram.apply_addMethod]
    exact addLast_run m s.classes
  rw [ClassSpec.steps, ClassDiagram.addListed, List.append_assoc, List.singleton_append]
  refine .cons (performs_edit (hedit _) _) (List.rel_append ?_ ?_)
  · exact memberSteps_perform hattribute _ c.attributes
  · exact memberSteps_perform hmethod _ c.methods

theorem performs_classRelationship (r : RelationSpec ClassRelation) :
    ∀ place, Step.Performs Part.classes ⟨place, .classRelationship r⟩
      (linkRecords ClassDiagram.rules r.edge) := by
  have hedit (source target : Option Id) :
      Store.apply (.classes (.addRelationship source target r.kind r.label)) =
        within Part.classes.part Part.classes.put
          (addEdge ClassDiagram.rules source target r.edge.data >>= fun id =>
            pure (Reply.created id)) := rfl
  refine performs_relationship (fun s => ?_) hedit
  simp only [namedEnds, bind_assoc, pure_bind]
  rfl

theorem ClassSection.steps_perform (c : ClassSection) :
    List.Forall₂ (Step.Performs Part.classes) c.steps
      (c.classes.flatMap ClassDiagram.addListed ++
        c.relationships.map fun r => linkRecords ClassDiagram.rules r.edge) := by
  have hclasses := recordSteps_perform ClassSpec.steps_perform c.classes
  have hrelationships := edgeSteps_perform performs_classRelationship "class relationship"
    c.relationships
  exact List.rel_append hclasses hrelationships

theorem ClassSection.replays (c : ClassSection) (hs : s.classes = {}) :
    s.Replays c.steps
      ((ClassDiagram.rules.Fits c.names (c.relationships.map (·.edge)) ∧
          ∀ spec ∈ c.classes, spec.MembersNamed) ∧
        EnoughNodes c.names c.relationships)
      (fun s' => ∃ d : ClassDiagram, (Sound ClassDiagram.rules ClassRecord.Named d ∧
        ClassDiagram.listed d = c.completed) ∧ s' = { s with classes := d })
      fun e => ClassDiagram.rules.Fits c.names (c.relationships.map (·.edge)) →
        (∀ spec ∈ c.classes, spec.MembersNamed) → LacksNodes .classes c.names c.relationships e := by
  have hdecides := ClassDiagram.listed_decides c
  have hpart : Part.classes.part s = {} := hs
  rw [← hpart] at hdecides
  exact Store.replays_within c.steps_perform hdecides

private theorem EntitySpec.steps_perform (e : EntitySpec) :
    List.Forall₂ (Step.Performs Part.entity) e.steps (EntityDiagram.addListed e) := by
  have hedit (edit : EntityEdit) : Store.apply (.entity edit) =
      within Part.entity.part Part.entity.put (EntityDiagram.apply edit) := rfl
  have hattribute (a : EntityAttribute) : ∀ place, Step.Performs Part.entity
      ⟨place, .entityAttribute a⟩ (EntityDiagram.addLastAttribute a) := by
    refine performs_of_resolve fun s => ⟨_, _, rfl, hedit _, ?_⟩
    rw [EntityDiagram.apply_addAttribute]
    exact addLast_run a s.entity
  rw [EntitySpec.steps, EntityDiagram.addListed, List.singleton_append]
  refine .cons (performs_edit (hedit _) _) ?_
  exact memberSteps_perform hattribute _ e.attributes

theorem performs_erRelationship (r : RelationSpec ErRelation) :
    ∀ place, Step.Performs Part.entity ⟨place, .erRelationship r⟩
      (linkRecords EntityDiagram.rules r.edge) := by
  have hedit (source target : Option Id) :
      Store.apply (.entity (.addRelationship source target r.kind r.label)) =
        within Part.entity.part Part.entity.put
          (addEdge EntityDiagram.rules source target r.edge.data >>= fun id =>
            pure (Reply.created id)) := rfl
  refine performs_relationship (fun s => ?_) hedit
  simp only [namedEnds, bind_assoc, pure_bind]
  rfl

theorem EntitySection.steps_perform (c : EntitySection) :
    List.Forall₂ (Step.Performs Part.entity) c.steps
      (c.entities.flatMap EntityDiagram.addListed ++
        c.relationships.map fun r => linkRecords EntityDiagram.rules r.edge) := by
  have hentities := recordSteps_perform EntitySpec.steps_perform c.entities
  have hrelationships := edgeSteps_perform performs_erRelationship "ER relationship"
    c.relationships
  exact List.rel_append hentities hrelationships

theorem EntitySection.replays (c : EntitySection) (hs : s.entity = {}) :
    s.Replays c.steps
      ((EntityDiagram.rules.Fits c.names (c.relationships.map (·.edge)) ∧
          ∀ spec ∈ c.entities, spec.MembersNamed) ∧
        EnoughNodes c.names c.relationships)
      (fun s' => ∃ d : EntityDiagram, (Sound EntityDiagram.rules EntityRecord.Named d ∧
        EntityDiagram.listed d = c.completed) ∧ s' = { s with entity := d })
      fun e => EntityDiagram.rules.Fits c.names (c.relationships.map (·.edge)) →
        (∀ spec ∈ c.entities, spec.MembersNamed) →
        LacksNodes .entities c.names c.relationships e := by
  have hdecides := EntityDiagram.listed_decides c
  have hpart : Part.entity.part s = {} := hs
  rw [← hpart] at hdecides
  exact Store.replays_within c.steps_perform hdecides

end UmlDiagrams
