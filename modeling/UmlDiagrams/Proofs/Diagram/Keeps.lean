import UmlDiagrams.Diagram.Class
import UmlDiagrams.Diagram.Entity
import UmlDiagrams.Diagram.Flow
import UmlDiagrams.Diagram.Sequence
import UmlDiagrams.Diagram.State
import UmlDiagrams.Proofs.Graph.Keeps
import UmlDiagrams.Proofs.UseCase.Keeps

namespace UmlDiagrams

open Stateful UmlDiagrams.Graph

private theorem byName_symmetric {ε : Type} (kind : Kind) (nodes edges : Collection) :
    (Rules.byName kind nodes edges : Rules String String ε).Symmetric :=
  fun _ _ => rfl

theorem byName_builds {ε : Type} (kind : Kind) (nodes edges : Collection) :
    (Rules.byName kind nodes edges : Rules String String ε).Builds Text.IsName fun _ n => n where
  name _ _ := rfl
  named _ _ h := h
  reference _ _ := .inl rfl

namespace SequenceDiagram

private theorem rules_symmetric : rules.Symmetric :=
  byName_symmetric _ _ _

private theorem rules_builds : rules.Builds Text.IsName fun _ n => n :=
  byName_builds _ _ _

theorem apply_keeps (edit : SequenceEdit) :
    Keeps (Sound rules Text.IsName) (apply edit) := by
  cases edit with
  | addActor name => exact (addNode_keeps rules_builds name).answer _
  | removeActor name => exact (removeNode_keeps name).answer _
  | addMessage source target arrow text =>
    exact (addEdge_keeps source target _).answer _
  | removeMessage id => exact (removeEdge_keeps id).answer _
  | retarget id source target =>
    exact (retarget_keeps rules_symmetric id source target).answer _
  | setArrow id arrow =>
    apply Keeps.answer
    apply reviseEdge_keeps rules_symmetric
    exact fun _ _ => rfl
  | setText id text =>
    apply Keeps.answer
    apply reviseEdge_keeps rules_symmetric
    exact fun _ _ => rfl

end SequenceDiagram

namespace StateDiagram

private theorem rules_symmetric : rules.Symmetric :=
  byName_symmetric _ _ _

private theorem rules_builds : rules.Builds Text.IsName fun _ n => n :=
  byName_builds _ _ _

theorem apply_keeps (edit : StateEdit) :
    Keeps (Sound rules Text.IsName) (apply edit) := by
  cases edit with
  | addState name => exact (addNode_keeps rules_builds name).answer _
  | removeState name => exact (removeNode_keeps name).answer _
  | addTransition source target event =>
    exact (addEdge_keeps source target event).answer _
  | removeTransition id => exact (removeEdge_keeps id).answer _
  | setEvent id event =>
    apply Keeps.answer
    apply reviseEdge_keeps rules_symmetric
    exact fun _ _ => rfl

end StateDiagram

theorem FlowDiagram.apply_keeps (kind : Kind) (nodes edges : Collection) (edit : FlowEdit) :
    Keeps (Sound (.byName kind nodes edges) Text.IsName)
      (apply (.byName kind nodes edges) edit) := by
  cases edit with
  | addNode name =>
    exact (addNode_keeps (byName_builds _ _ _) name).answer _
  | removeNode name => exact (removeNode_keeps name).answer _
  | addEdge source target => exact (addEdge_keeps source target ()).answer _
  | removeEdge id => exact (removeEdge_keeps id).answer _

private theorem takeMember_sublist {α : Type} {c : Collection} {members rest : List α} {index : Nat}
    {member : α} (h : takeMember c members index = .ok (member, rest)) :
    rest.Sublist members := by
  cases hm : members[index]? with
  | some found =>
    rw [takeMember, hm] at h
    cases h
    exact List.eraseIdx_sublist members index
  | none =>
    rw [takeMember, hm] at h
    cases h

structure ClassRecord.Named (c : ClassRecord) : Prop where
  name : Text.IsName c.name
  attributes : ∀ a ∈ c.attributes, Text.IsName a.name
  methods : ∀ m ∈ c.methods, Text.IsName m.name

structure EntityRecord.Named (e : EntityRecord) : Prop where
  name : Text.IsName e.name
  attributes : ∀ a ∈ e.attributes, Text.IsName a.name

namespace ClassDiagram

theorem rules_symmetric : rules.Symmetric := by
  intro r s
  simp [rules, eq_comm]

theorem rules_builds (isAbstract : Bool) :
    rules.Builds ClassRecord.Named fun id name => ⟨id, name, isAbstract, [], []⟩ where
  name _ _ := rfl
  named _ _ h := ⟨h, by simp, by simp⟩
  reference _ _ := .inr rfl

theorem apply_keeps (edit : ClassEdit) : Keeps (Sound rules ClassRecord.Named) (apply edit) := by
  cases edit with
  | addClass name isAbstract =>
    exact (addNode_keeps (rules_builds isAbstract) name).answer _
  | removeClass id => exact (removeNode_keeps id).answer _
  | setAbstract id isAbstract =>
    apply reviseNode_keeps
    intro old answer node hold hrevise
    cases hrevise
    exact ⟨rfl, rfl, hold.name, hold.attributes, hold.methods⟩
  | addAttribute id attr =>
    apply Keeps.check
    intro name hname
    apply reviseNode_keeps
    intro old answer node hold hrevise
    cases hrevise
    refine ⟨rfl, rfl, hold.name, fun a ha => ?_, hold.methods⟩
    rcases List.mem_append.mp ha with ha | ha
    · exact hold.attributes a ha
    · exact List.mem_singleton.mp ha ▸ isName_of_memberName hname
  | removeAttribute id index =>
    refine reviseNode_keeps fun old answer node hold h => ?_
    obtain ⟨⟨attr, rest⟩, htake, h⟩ := bind_eq_ok.mp h
    cases h
    have hsub := takeMember_sublist htake
    exact ⟨rfl, rfl, hold.name, fun a ha => hold.attributes a (hsub.subset ha), hold.methods⟩
  | addMethod id method =>
    apply Keeps.check
    intro name hname
    apply reviseNode_keeps
    intro old answer node hold hrevise
    cases hrevise
    refine ⟨rfl, rfl, hold.name, hold.attributes, fun m hm => ?_⟩
    rcases List.mem_append.mp hm with hm | hm
    · exact hold.methods m hm
    · exact List.mem_singleton.mp hm ▸ isName_of_memberName hname
  | removeMethod id index =>
    refine reviseNode_keeps fun old answer node hold h => ?_
    obtain ⟨⟨method, rest⟩, htake, h⟩ := bind_eq_ok.mp h
    cases h
    have hsub := takeMember_sublist htake
    exact ⟨rfl, rfl, hold.name, hold.attributes, fun m hm => hold.methods m (hsub.subset hm)⟩
  | addRelationship source target kind label =>
    exact (addEdge_keeps source target _).answer _
  | removeRelationship id => exact (removeEdge_keeps id).answer _
  | setKind id kind =>
    exact (retypeEdge_keeps rules_symmetric id _).answer _
  | retarget id source target =>
    exact (retarget_keeps rules_symmetric id source target).answer _
  | setLabel id label =>
    apply Keeps.answer
    apply reviseEdge_keeps rules_symmetric
    exact fun _ _ => rfl

end ClassDiagram

namespace EntityDiagram

theorem rules_symmetric : rules.Symmetric := by
  intro r s
  simp [rules, eq_comm]

theorem rules_builds : rules.Builds EntityRecord.Named fun id name => ⟨id, name, []⟩ where
  name _ _ := rfl
  named _ _ h := ⟨h, by simp⟩
  reference _ _ := .inr rfl

theorem apply_keeps (edit : EntityEdit) :
    Keeps (Sound rules EntityRecord.Named) (apply edit) := by
  cases edit with
  | addEntity name => exact (addNode_keeps rules_builds name).answer _
  | removeEntity id => exact (removeNode_keeps id).answer _
  | addAttribute id attr =>
    apply Keeps.check
    intro name hname
    apply reviseNode_keeps
    intro old answer node hold hrevise
    cases hrevise
    refine ⟨rfl, rfl, hold.name, fun a ha => ?_⟩
    rcases List.mem_append.mp ha with ha | ha
    · exact hold.attributes a ha
    · exact List.mem_singleton.mp ha ▸ isName_of_memberName hname
  | removeAttribute id index =>
    refine reviseNode_keeps fun old answer node hold h => ?_
    obtain ⟨⟨attr, rest⟩, htake, h⟩ := bind_eq_ok.mp h
    cases h
    have hsub := takeMember_sublist htake
    exact ⟨rfl, rfl, hold.name, fun a ha => hold.attributes a (hsub.subset ha)⟩
  | addRelationship source target kind label =>
    exact (addEdge_keeps source target _).answer _
  | removeRelationship id => exact (removeEdge_keeps id).answer _
  | setKind id kind =>
    exact (retypeEdge_keeps rules_symmetric id _).answer _
  | retarget id source target =>
    exact (retarget_keeps rules_symmetric id source target).answer _
  | setLabel id label =>
    apply Keeps.answer
    apply reviseEdge_keeps rules_symmetric
    exact fun _ _ => rfl

end EntityDiagram

theorem UseCaseDiagram.apply_keeps (edit : UseCaseEdit) : Keeps Sound (apply edit) := by
  cases edit with
  | addActor name => exact (addActor_keeps name).answer _
  | removeActor name => exact (removeActor_keeps name).answer _
  | addUseCase name => exact (addUseCase_keeps name).answer _
  | removeUseCase name => exact (removeUseCase_keeps name).answer _
  | addLink actor useCase => exact (addLink_keeps actor useCase).answer _
  | removeLink id => exact (removeLink_keeps id).answer _

end UmlDiagrams
