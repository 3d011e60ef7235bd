import UmlDiagrams.Proofs.Diagram.Effects
import UmlDiagrams.Proofs.Graph.Notices
/-!
# What edits of the diagrams note

An accepted edit notes every list that it changes. The exception is the removal of a class or an
entity: what happens to the members that went with it is not noted.
-/

namespace UmlDiagrams

open UmlDiagrams.Graph

theorem SequenceEdit.Effect.noted {edit : SequenceEdit} {d d' : SequenceDiagram}
    (h : edit.Effect d d') : d.Noted SequenceDiagram.rules id d' := by
  cases edit with
  | addActor name =>
    rw [Effect] at h
    exact h.noted
  | removeActor name => exact RemovedNode.noted h
  | addMessage source target arrow text => exact AddedEdge.noted h
  | removeMessage id => exact RemovedEdge.noted h
  | retarget id source target => exact ChangedEdge.noted h
  | setArrow id arrow => exact ChangedEdge.noted h
  | setText id text => exact ChangedEdge.noted h

theorem StateEdit.Effect.noted {edit : StateEdit} {d d' : StateDiagram} (h : edit.Effect d d') :
    d.Noted StateDiagram.rules id d' := by
  cases edit with
  | addState name =>
    rw [Effect] at h
    exact h.noted
  | removeState name => exact RemovedNode.noted h
  | addTransition source target event => exact AddedEdge.noted h
  | removeTransition id => exact RemovedEdge.noted h
  | setEvent id event => exact ChangedEdge.noted h

theorem FlowEdit.Effect.noted {R : Rules String String Unit} {edit : FlowEdit} {d d' : FlowDiagram}
    (h : edit.Effect R d d') : d.Noted R id d' := by
  cases edit with
  | addNode name =>
    rw [Effect] at h
    exact h.noted
  | removeNode name => exact RemovedNode.noted h
  | addEdge source target => exact AddedEdge.noted h
  | removeEdge id => exact RemovedEdge.noted h

/-- The second diagram notes all that the first one notes, and each of its lists in which it differs
from the first. -/
structure UseCaseDiagram.Noted (d d' : UseCaseDiagram) : Prop where
  kept : d.changes ⊆ d'.changes
  actors : d'.actors = d.actors ∨ .useCaseActors ∈ d'.changes
  useCases : d'.useCases = d.useCases ∨ .useCases ∈ d'.changes
  links : d'.links = d.links ∨ .useCaseLinks ∈ d'.changes

namespace UseCaseDiagram

variable {d d' : UseCaseDiagram} {c : Collection} {touched : List Collection}

private theorem subset_touch : d.changes ⊆ (d.touch touched).changes :=
  fun _ hc => mem_notice.mpr (.inl hc)

private theorem mem_touch (h : c ∈ touched) : c ∈ (d.touch touched).changes :=
  mem_notice.mpr (.inr h)

theorem clear_noted : d.Noted d.clear :=
  ⟨subset_touch, .inr (mem_touch (by simp)), .inr (mem_touch (by simp)),
    .inr (mem_touch (by simp))⟩

end UseCaseDiagram

open UseCaseDiagram in
theorem UseCaseEdit.Effect.noted {edit : UseCaseEdit} {d d' : UseCaseDiagram}
    (h : edit.Effect d d') : d.Noted d' := by
  cases edit with
  | addActor name =>
    obtain ⟨text, -, rfl⟩ := h
    exact ⟨subset_touch, .inr (mem_touch (by simp)), .inl rfl, .inl rfl⟩
  | removeActor name =>
    obtain ⟨-, rfl⟩ := h
    exact ⟨subset_touch, .inr (mem_touch (by simp)), .inl rfl, .inr (mem_touch (by simp))⟩
  | addUseCase name =>
    obtain ⟨text, -, rfl⟩ := h
    exact ⟨subset_touch, .inl rfl, .inr (mem_touch (by simp)), .inl rfl⟩
  | removeUseCase name =>
    obtain ⟨-, rfl⟩ := h
    exact ⟨subset_touch, .inl rfl, .inr (mem_touch (by simp)), .inr (mem_touch (by simp))⟩
  | addLink actor useCase =>
    obtain ⟨a, u, -, rfl⟩ := h
    exact ⟨subset_touch, .inl rfl, .inl rfl, .inr (mem_touch (by simp))⟩
  | removeLink id =>
    obtain ⟨-, rfl⟩ := h
    exact ⟨subset_touch, .inl rfl, .inl rfl, .inr (mem_touch (by simp))⟩

namespace ClassRecord

def head (c : ClassRecord) : Id × String × Bool :=
  (c.id, c.name, c.isAbstract)

variable {old new : ClassRecord}

private theorem FlagOnly.members (h : FlagOnly old new) :
    new.id = old.id ∧ new.attributes = old.attributes ∧ new.methods = old.methods := by
  obtain ⟨isAbstract, rfl⟩ := h
  exact ⟨rfl, rfl, rfl⟩

private theorem AttributesOnly.rest (h : AttributesOnly old new) :
    new.id = old.id ∧ new.head = old.head ∧ new.methods = old.methods := by
  obtain ⟨attributes, rfl⟩ := h
  exact ⟨rfl, rfl, rfl⟩

private theorem MethodsOnly.rest (h : MethodsOnly old new) :
    new.id = old.id ∧ new.head = old.head ∧ new.attributes = old.attributes := by
  obtain ⟨methods, rfl⟩ := h
  exact ⟨rfl, rfl, rfl⟩

end ClassRecord

def ClassEdit.removesClass : ClassEdit → Bool
  | .removeClass _ => true
  | _ => false

namespace ClassEdit.Effect

open ClassDiagram

variable {edit : ClassEdit} {d d' : ClassDiagram}

theorem noted (hkeys : (d.keys rules).Nodup) (h : edit.Effect d d') :
    d.Noted rules ClassRecord.head d' := by
  cases edit with
  | addClass name isAbstract =>
    rw [ClassEdit.Effect] at h
    exact h.noted
  | removeClass id => exact RemovedNode.noted h
  | setAbstract id isAbstract =>
    exact ⟨ChangedNode.subset_changes h, .inr (ChangedNode.mem_changes h),
      .inl (ChangedNode.edges_eq h)⟩
  | addAttribute id attr =>
    exact ChangedNode.noted_of_head h hkeys fun _ _ hold => ⟨hold.rest.1, hold.rest.2.1⟩
  | removeAttribute id index =>
    exact ChangedNode.noted_of_head h hkeys fun _ _ hold => ⟨hold.rest.1, hold.rest.2.1⟩
  | addMethod id method =>
    exact ChangedNode.noted_of_head h hkeys fun _ _ hold => ⟨hold.rest.1, hold.rest.2.1⟩
  | removeMethod id index =>
    exact ChangedNode.noted_of_head h hkeys fun _ _ hold => ⟨hold.rest.1, hold.rest.2.1⟩
  | addRelationship source target kind label => exact AddedEdge.noted h
  | removeRelationship id => exact RemovedEdge.noted h
  | setKind id kind => exact ChangedEdge.noted h
  | retarget id source target => exact ChangedEdge.noted h
  | setLabel id label => exact ChangedEdge.noted h

/-- Members are noted by the edits that change them, which are those of one kind of members. -/
private theorem membersNoted {μ : Type} {members : ClassRecord → List μ} {c : Collection}
    (hkeys : (d.keys rules).Nodup) (h : edit.Effect d d') (hedit : edit.removesClass = false)
    (hnew : ∀ id name isAbstract, members ⟨id, name, isAbstract, [], []⟩ = [])
    (hflag : ∀ old new, ClassRecord.FlagOnly old new → members new = members old)
    (hattributes : .classAttributes = c ∨
      ∀ old new, ClassRecord.AttributesOnly old new → members new = members old)
    (hmethods : .classMethods = c ∨
      ∀ old new, ClassRecord.MethodsOnly old new → members new = members old) :
    d.MembersNoted members c d' := by
  cases edit with
  | addClass name isAbstract =>
    rw [ClassEdit.Effect] at h
    exact h.membersNoted fun id name => hnew id name isAbstract
  | removeClass id => cases hedit
  | setAbstract id isAbstract =>
    exact ChangedNode.membersNoted h hkeys (fun _ _ hold => hold.members.1) (.inr hflag)
  | addAttribute id attr =>
    exact ChangedNode.membersNoted h hkeys (fun _ _ hold => hold.rest.1) hattributes
  | removeAttribute id index =>
    exact ChangedNode.membersNoted h hkeys (fun _ _ hold => hold.rest.1) hattributes
  | addMethod id method =>
    exact ChangedNode.membersNoted h hkeys (fun _ _ hold => hold.rest.1) hmethods
  | removeMethod id index =>
    exact ChangedNode.membersNoted h hkeys (fun _ _ hold => hold.rest.1) hmethods
  | addRelationship source target kind label => exact AddedEdge.membersNoted h
  | removeRelationship id => exact RemovedEdge.membersNoted h
  | setKind id kind => exact ChangedEdge.membersNoted h
  | retarget id source target => exact ChangedEdge.membersNoted h
  | setLabel id label => exact ChangedEdge.membersNoted h

theorem attributesNoted (hkeys : (d.keys rules).Nodup) (h : edit.Effect d d')
    (hedit : edit.removesClass = false) :
    d.MembersNoted ClassRecord.attributes .classAttributes d' :=
  h.membersNoted hkeys hedit (fun _ _ _ => rfl) (fun _ _ hold => hold.members.2.1) (.inl rfl)
    (.inr fun _ _ hold => hold.rest.2.2)

theorem methodsNoted (hkeys : (d.keys rules).Nodup) (h : edit.Effect d d')
    (hedit : edit.removesClass = false) :
    d.MembersNoted ClassRecord.methods .classMethods d' :=
  h.membersNoted hkeys hedit (fun _ _ _ => rfl) (fun _ _ hold => hold.members.2.2)
    (.inr fun _ _ hold => hold.rest.2.2) (.inl rfl)

end ClassEdit.Effect

namespace EntityRecord

def head (e : EntityRecord) : Id × String :=
  (e.id, e.name)

private theorem AttributesOnly.rest {old new : EntityRecord} (h : AttributesOnly old new) :
    new.id = old.id ∧ new.head = old.head := by
  obtain ⟨attributes, rfl⟩ := h
  exact ⟨rfl, rfl⟩

end EntityRecord

def EntityEdit.removesEntity : EntityEdit → Bool
  | .removeEntity _ => true
  | _ => false

namespace EntityEdit.Effect

open EntityDiagram

variable {edit : EntityEdit} {d d' : EntityDiagram}

theorem noted (hkeys : (d.keys rules).Nodup) (h : edit.Effect d d') :
    d.Noted rules EntityRecord.head d' := by
  cases edit with
  | addEntity name =>
    rw [EntityEdit.Effect] at h
    exact h.noted
  | removeEntity id => exact RemovedNode.noted h
  | addAttribute id attr => exact ChangedNode.noted_of_head h hkeys fun _ _ hold => hold.rest
  | removeAttribute id index => exact ChangedNode.noted_of_head h hkeys fun _ _ hold => hold.rest
  | addRelationship source target kind label => exact AddedEdge.noted h
  | removeRelationship id => exact RemovedEdge.noted h
  | setKind id kind => exact ChangedEdge.noted h
  | retarget id source target => exact ChangedEdge.noted h
  | setLabel id label => exact ChangedEdge.noted h

theorem attributesNoted (h : edit.Effect d d') (hedit : edit.removesEntity = false) :
    d.MembersNoted EntityRecord.attributes .entityAttributes d' := by
  cases edit with
  | addEntity name =>
    rw [EntityEdit.Effect] at h
    exact h.membersNoted fun _ _ => rfl
  | removeEntity id => cases hedit
  | addAttribute id attr => exact .inr (ChangedNode.mem_changes h)
  | removeAttribute id index => exact .inr (ChangedNode.mem_changes h)
  | addRelationship source target kind label => exact AddedEdge.membersNoted h
  | removeRelationship id => exact RemovedEdge.membersNoted h
  | setKind id kind => exact ChangedEdge.membersNoted h
  | retarget id source target => exact ChangedEdge.membersNoted h
  | setLabel id label => exact ChangedEdge.membersNoted h

end EntityEdit.Effect

end UmlDiagrams
