import UmlDiagrams.Diagram.UseCase
import UmlDiagrams.Proofs.Lists
import UmlDiagrams.Proofs.Naming

namespace UmlDiagrams.UseCaseDiagram

variable (d : UseCaseDiagram)

theorem addActor_run (name : String) :
    (addActor name).run d =
      match d.newActor name with
      | .ok text => .ok () (touch [.useCaseActors] (withActor text d))
      | .error e => .error e d := by
  cases h : d.newActor name <;> simp [addActor, note, h]

theorem addUseCase_run (name : String) :
    (addUseCase name).run d =
      match d.newUseCase name with
      | .ok text => .ok () (touch [.useCases] (withUseCase text d))
      | .error e => .error e d := by
  cases h : d.newUseCase name <;> simp [addUseCase, note, h]

theorem removeActor_run (name : String) :
    (removeActor name).run d =
      if name ∈ d.actors then
        .ok true (touch [.useCaseActors, .useCaseLinks] (withoutLinksFrom name (withoutActor name d)))
      else .ok false d := by
  rw [← List.map_id d.actors]
  by_cases h : name ∈ d.actors.map id
  · have hl : (withoutActor name d).actors.length ≠ d.actors.length := length_filter_ne h
    rw [if_pos h]
    simp [removeActor, note, hl]
  · have hd : withoutActor name d = d := by
      rw [withoutActor]
      exact congrArg (fun actors => { d with actors }) (filter_ne_eq_self h)
    rw [if_neg h]
    simp [removeActor, hd]

theorem removeUseCase_run (name : String) :
    (removeUseCase name).run d =
      if name ∈ d.useCases then
        .ok true (touch [.useCases, .useCaseLinks] (withoutLinksTo name (withoutUseCase name d)))
      else .ok false d := by
  rw [← List.map_id d.useCases]
  by_cases h : name ∈ d.useCases.map id
  · have hl : (withoutUseCase name d).useCases.length ≠ d.useCases.length := length_filter_ne h
    rw [if_pos h]
    simp [removeUseCase, note, hl]
  · have hd : withoutUseCase name d = d := by
      rw [withoutUseCase]
      exact congrArg (fun useCases => { d with useCases }) (filter_ne_eq_self h)
    rw [if_neg h]
    simp [removeUseCase, hd]

theorem addLink_run (actor useCase : Option String) :
    (addLink actor useCase).run d =
      match d.newEnds actor useCase with
      | .ok (a, u) =>
        .ok d.nextId (touch [.useCaseLinks] (withLink ⟨d.nextId, a, u⟩ d.countId))
      | .error e => .error e d := by
  cases h : d.newEnds actor useCase <;> simp [addLink, issue, note, h]

theorem removeLink_run (id : Id) :
    (removeLink id).run d =
      if id ∈ d.links.map (·.id) then .ok true (touch [.useCaseLinks] (withoutLink id d))
      else .ok false d := by
  by_cases h : id ∈ d.links.map (·.id)
  · have hl : (withoutLink id d).links.length ≠ d.links.length := length_filter_ne h
    rw [if_pos h]
    simp [removeLink, note, hl]
  · have hd : withoutLink id d = d := by
      rw [withoutLink, filter_ne_eq_self h]
    rw [if_neg h]
    simp [removeLink, hd]

end UmlDiagrams.UseCaseDiagram
