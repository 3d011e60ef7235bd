import UmlDiagrams.Proofs.Effects
import UmlDiagrams.Proofs.UseCase.Edits

namespace UmlDiagrams

open Stateful

def UseCaseEdit.Effect : UseCaseEdit → UseCaseDiagram → UseCaseDiagram → Prop
  | .addActor name => fun d d' => ∃ text, d.newActor name = .ok text ∧
      d' = (d.withActor text).touch [.useCaseActors]
  | .removeActor name => fun d d' => name ∈ d.actors ∧
      d' = ((d.withoutActor name).withoutLinksFrom name).touch [.useCaseActors, .useCaseLinks]
  | .addUseCase name => fun d d' => ∃ text, d.newUseCase name = .ok text ∧
      d' = (d.withUseCase text).touch [.useCases]
  | .removeUseCase name => fun d d' => name ∈ d.useCases ∧
      d' = ((d.withoutUseCase name).withoutLinksTo name).touch [.useCases, .useCaseLinks]
  | .addLink actor useCase => fun d d' => ∃ a u, d.newEnds actor useCase = .ok (a, u) ∧
      d' = (d.countId.withLink ⟨d.nextId, a, u⟩).touch [.useCaseLinks]
  | .removeLink id => fun d d' => id ∈ d.links.map (·.id) ∧
      d' = (d.withoutLink id).touch [.useCaseLinks]

namespace UseCaseDiagram

theorem addActor_effects (name : String) :
    Effects (fun _ => False) (UseCaseEdit.addActor name).Effect (addActor name) := by
  intro d
  rw [addActor_run]
  cases h : d.newActor name with
  | error e => exact .failed e
  | ok text => exact .accepted _ _ not_false ⟨text, h, rfl⟩

theorem removeActor_effects (name : String) :
    Effects (· = false) (UseCaseEdit.removeActor name).Effect (removeActor name) := by
  intro d
  rw [removeActor_run]
  by_cases h : name ∈ d.actors
  · rw [if_pos h]
    exact .accepted _ _ Bool.true_eq_false.mp ⟨h, rfl⟩
  · rw [if_neg h]
    exact .refused _ rfl

theorem addUseCase_effects (name : String) :
    Effects (fun _ => False) (UseCaseEdit.addUseCase name).Effect (addUseCase name) := by
  intro d
  rw [addUseCase_run]
  cases h : d.newUseCase name with
  | error e => exact .failed e
  | ok text => exact .accepted _ _ not_false ⟨text, h, rfl⟩

theorem removeUseCase_effects (name : String) :
    Effects (· = false) (UseCaseEdit.removeUseCase name).Effect (removeUseCase name) := by
  intro d
  rw [removeUseCase_run]
  by_cases h : name ∈ d.useCases
  · rw [if_pos h]
    exact .accepted _ _ Bool.true_eq_false.mp ⟨h, rfl⟩
  · rw [if_neg h]
    exact .refused _ rfl

theorem addLink_effects (actor useCase : Option String) :
    Effects (fun _ => False) (UseCaseEdit.addLink actor useCase).Effect
      (addLink actor useCase) := by
  intro d
  rw [addLink_run]
  cases h : d.newEnds actor useCase with
  | error e => exact .failed e
  | ok ends => exact .accepted _ _ not_false ⟨ends.1, ends.2, h, rfl⟩

theorem removeLink_effects (id : Id) :
    Effects (· = false) (UseCaseEdit.removeLink id).Effect (removeLink id) := by
  intro d
  rw [removeLink_run]
  by_cases h : id ∈ d.links.map (·.id)
  · rw [if_pos h]
    exact .accepted _ _ Bool.true_eq_false.mp ⟨h, rfl⟩
  · rw [if_neg h]
    exact .refused _ rfl

end UseCaseDiagram

end UmlDiagrams
