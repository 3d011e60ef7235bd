import UmlDiagrams.Diagram.Class
import UmlDiagrams.Diagram.Entity
import UmlDiagrams.Diagram.Flow
import UmlDiagrams.Diagram.Sequence
import UmlDiagrams.Diagram.State
import UmlDiagrams.Proofs.Graph.Effects
import UmlDiagrams.Proofs.UseCase.Effects
/-!
# What accepted edits of the diagrams do

For each diagram, the relation between the diagram before and the diagram after an accepted edit,
and one theorem: an edit does that, or it refuses and does nothing.
-/

namespace UmlDiagrams

open Stateful UmlDiagrams.Graph

/-- A removal that found nothing. Every other reply tells of a change. -/
def Reply.Refuses (reply : Reply) : Prop :=
  reply = .removed false

private theorem Reply.removed_refuses (found : Bool) :
    (Reply.removed found).Refuses ↔ found = false :=
  ⟨Reply.removed.inj, congrArg Reply.removed⟩

theorem Reply.created_refuses (id : Id) : (Reply.created id).Refuses ↔ False :=
  ⟨(nomatch ·), False.elim⟩

theorem Reply.done_refuses {α : Type} (_ : α) : Reply.done.Refuses ↔ False :=
  ⟨(nomatch ·), False.elim⟩

def SequenceEdit.Effect : SequenceEdit → SequenceDiagram → SequenceDiagram → Prop
  | .addActor name => AddedNode SequenceDiagram.rules name fun _ n => n
  | .removeActor name => RemovedNode SequenceDiagram.rules name
  | .addMessage source target arrow text =>
    AddedEdge SequenceDiagram.rules source target ⟨arrow, text⟩
  | .removeMessage id => RemovedEdge SequenceDiagram.rules id
  | .retarget id _ _ => ChangedEdge SequenceDiagram.rules id
  | .setArrow id _ => ChangedEdge SequenceDiagram.rules id
  | .setText id _ => ChangedEdge SequenceDiagram.rules id

def StateEdit.Effect : StateEdit → StateDiagram → StateDiagram → Prop
  | .addState name => AddedNode StateDiagram.rules name fun _ n => n
  | .removeState name => RemovedNode StateDiagram.rules name
  | .addTransition source target event => AddedEdge StateDiagram.rules source target event
  | .removeTransition id => RemovedEdge StateDiagram.rules id
  | .setEvent id _ => ChangedEdge StateDiagram.rules id

def FlowEdit.Effect (R : Rules String String Unit) : FlowEdit → FlowDiagram → FlowDiagram → Prop
  | .addNode name => AddedNode R name fun _ n => n
  | .removeNode name => RemovedNode R name
  | .addEdge source target => AddedEdge R source target ()
  | .removeEdge id => RemovedEdge R id

theorem SequenceDiagram.apply_effects (edit : SequenceEdit) :
    Effects Reply.Refuses edit.Effect (apply edit) := by
  cases edit with
  | addActor name => exact (addNode_effects name fun _ n => n).answer Reply.done_refuses
  | removeActor name => exact (removeNode_effects name).answer Reply.removed_refuses
  | addMessage source target arrow text =>
    exact (addEdge_effects source target _).answer Reply.created_refuses
  | removeMessage id => exact (removeEdge_effects id).answer Reply.removed_refuses
  | retarget id source target => exact (retarget_effects id source target).answer Reply.done_refuses
  | setArrow id arrow => exact (reviseEdge_effects id _).answer Reply.done_refuses
  | setText id text => exact (reviseEdge_effects id _).answer Reply.done_refuses

theorem StateDiagram.apply_effects (edit : StateEdit) :
    Effects Reply.Refuses edit.Effect (apply edit) := by
  cases edit with
  | addState name => exact (addNode_effects name fun _ n => n).answer Reply.done_refuses
  | removeState name => exact (removeNode_effects name).answer Reply.removed_refuses
  | addTransition source target event =>
    exact (addEdge_effects source target event).answer Reply.created_refuses
  | removeTransition id => exact (removeEdge_effects id).answer Reply.removed_refuses
  | setEvent id event => exact (reviseEdge_effects id _).answer Reply.done_refuses

theorem FlowDiagram.apply_effects (R : Rules String String Unit) (edit : FlowEdit) :
    Effects Reply.Refuses (edit.Effect R) (apply R edit) := by
  cases edit with
  | addNode name => exact (addNode_effects name fun _ n => n).answer Reply.done_refuses
  | removeNode name => exact (removeNode_effects name).answer Reply.removed_refuses
  | addEdge source target => exact (addEdge_effects source target ()).answer Reply.created_refuses
  | removeEdge id => exact (removeEdge_effects id).answer Reply.removed_refuses

def ClassRecord.AttributesOnly (old new : ClassRecord) : Prop :=
  ∃ attributes, new = { old with attributes }

def ClassRecord.MethodsOnly (old new : ClassRecord) : Prop :=
  ∃ methods, new = { old with methods }

def ClassRecord.FlagOnly (old new : ClassRecord) : Prop :=
  ∃ isAbstract, new = { old with isAbstract }

def EntityRecord.AttributesOnly (old new : EntityRecord) : Prop :=
  ∃ attributes, new = { old with attributes }

def ClassEdit.Effect : ClassEdit → ClassDiagram → ClassDiagram → Prop
  | .addClass name isAbstract =>
    AddedNode ClassDiagram.rules name fun id name => ⟨id, name, isAbstract, [], []⟩
  | .removeClass id => RemovedNode ClassDiagram.rules id
  | .setAbstract id _ => ChangedNode ClassDiagram.rules id .classes ClassRecord.FlagOnly
  | .addAttribute id _ =>
    ChangedNode ClassDiagram.rules id .classAttributes ClassRecord.AttributesOnly
  | .removeAttribute id _ =>
    ChangedNode ClassDiagram.rules id .classAttributes ClassRecord.AttributesOnly
  | .addMethod id _ => ChangedNode ClassDiagram.rules id .classMethods ClassRecord.MethodsOnly
  | .removeMethod id _ => ChangedNode ClassDiagram.rules id .classMethods ClassRecord.MethodsOnly
  | .addRelationship source target kind label =>
    AddedEdge ClassDiagram.rules source target ⟨kind, label⟩
  | .removeRelationship id => RemovedEdge ClassDiagram.rules id
  | .setKind id _ => ChangedEdge ClassDiagram.rules id
  | .retarget id _ _ => ChangedEdge ClassDiagram.rules id
  | .setLabel id _ => ChangedEdge ClassDiagram.rules id

def EntityEdit.Effect : EntityEdit → EntityDiagram → EntityDiagram → Prop
  | .addEntity name => AddedNode EntityDiagram.rules name fun id name => ⟨id, name, []⟩
  | .removeEntity id => RemovedNode EntityDiagram.rules id
  | .addAttribute id _ =>
    ChangedNode EntityDiagram.rules id .entityAttributes EntityRecord.AttributesOnly
  | .removeAttribute id _ =>
    ChangedNode EntityDiagram.rules id .entityAttributes EntityRecord.AttributesOnly
  | .addRelationship source target kind label =>
    AddedEdge EntityDiagram.rules source target ⟨kind, label⟩
  | .removeRelationship id => RemovedEdge EntityDiagram.rules id
  | .setKind id _ => ChangedEdge EntityDiagram.rules id
  | .retarget id _ _ => ChangedEdge EntityDiagram.rules id
  | .setLabel id _ => ChangedEdge EntityDiagram.rules id

theorem ClassDiagram.apply_effects (edit : ClassEdit) :
    Effects Reply.Refuses edit.Effect (apply edit) := by
  cases edit with
  | addClass name isAbstract =>
    exact (addNode_effects name fun id name => ClassRecord.mk id name isAbstract [] []).answer
      Reply.created_refuses
  | removeClass id => exact (removeNode_effects id).answer Reply.removed_refuses
  | setAbstract id isAbstract =>
    refine reviseNode_effects fun old answer node h => ?_
    cases h
    exact ⟨(nomatch ·), isAbstract, rfl⟩
  | addAttribute id attr =>
    refine Effects.check fun name _ => reviseNode_effects fun old answer node h => ?_
    cases h
    exact ⟨(nomatch ·), _, rfl⟩
  | removeAttribute id index =>
    refine reviseNode_effects fun old answer node h => ?_
    obtain ⟨⟨attr, rest⟩, -, h⟩ := bind_eq_ok.mp h
    cases h
    exact ⟨(nomatch ·), rest, rfl⟩
  | addMethod id method =>
    refine Effects.check fun name _ => reviseNode_effects fun old answer node h => ?_
    cases h
    exact ⟨(nomatch ·), _, rfl⟩
  | removeMethod id index =>
    refine reviseNode_effects fun old answer node h => ?_
    obtain ⟨⟨method, rest⟩, -, h⟩ := bind_eq_ok.mp h
    cases h
    exact ⟨(nomatch ·), rest, rfl⟩
  | addRelationship source target kind label =>
    exact (addEdge_effects source target _).answer Reply.created_refuses
  | removeRelationship id => exact (removeEdge_effects id).answer Reply.removed_refuses
  | setKind id kind => exact (retypeEdge_effects id _).answer Reply.done_refuses
  | retarget id source target => exact (retarget_effects id source target).answer Reply.done_refuses
  | setLabel id label => exact (reviseEdge_effects id _).answer Reply.done_refuses

theorem EntityDiagram.apply_effects (edit : EntityEdit) :
    Effects Reply.Refuses edit.Effect (apply edit) := by
  cases edit with
  | addEntity name =>
    exact (addNode_effects name fun id name => EntityRecord.mk id name []).answer
      Reply.created_refuses
  | removeEntity id => exact (removeNode_effects id).answer Reply.removed_refuses
  | addAttribute id attr =>
    refine Effects.check fun name _ => reviseNode_effects fun old answer node h => ?_
    cases h
    exact ⟨(nomatch ·), _, rfl⟩
  | removeAttribute id index =>
    refine reviseNode_effects fun old answer node h => ?_
    obtain ⟨⟨attr, rest⟩, -, h⟩ := bind_eq_ok.mp h
    cases h
    exact ⟨(nomatch ·), rest, rfl⟩
  | addRelationship source target kind label =>
    exact (addEdge_effects source target _).answer Reply.created_refuses
  | removeRelationship id => exact (removeEdge_effects id).answer Reply.removed_refuses
  | setKind id kind => exact (retypeEdge_effects id _).answer Reply.done_refuses
  | retarget id source target => exact (retarget_effects id source target).answer Reply.done_refuses
  | setLabel id label => exact (reviseEdge_effects id _).answer Reply.done_refuses

theorem UseCaseDiagram.apply_effects (edit : UseCaseEdit) :
    Effects Reply.Refuses edit.Effect (apply edit) := by
  cases edit with
  | addActor name => exact (addActor_effects name).answer Reply.done_refuses
  | removeActor name => exact (removeActor_effects name).answer Reply.removed_refuses
  | addUseCase name => exact (addUseCase_effects name).answer Reply.done_refuses
  | removeUseCase name => exact (removeUseCase_effects name).answer Reply.removed_refuses
  | addLink actor useCase => exact (addLink_effects actor useCase).answer Reply.created_refuses
  | removeLink id => exact (removeLink_effects id).answer Reply.removed_refuses

end UmlDiagrams
