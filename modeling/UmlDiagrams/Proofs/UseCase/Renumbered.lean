import UmlDiagrams.Proofs.Relabeling
import UmlDiagrams.Proofs.Simulation
import UmlDiagrams.Proofs.UseCase.Edits
/-!
# Renumbered use-case diagrams

Names tell actors and use cases apart, so that only links have identifiers. Two diagrams whose links
differ in nothing else answer the same edits alike, and stay alike.
-/

namespace UmlDiagrams

open Stateful

def UseCaseEdit.renumbered (f : Id → Id) : UseCaseEdit → UseCaseEdit
  | .removeLink id => .removeLink (f id)
  | edit => edit

namespace UseCaseDiagram

structure Alike (f : Id → Id) (d d' : UseCaseDiagram) : Prop where
  actors : d'.actors = d.actors
  useCases : d'.useCases = d.useCases
  links : d'.links = d.links.map fun l => { l with id := f l.id }
  /-- The identifiers that the diagrams have still to issue. -/
  ids : ∀ n, f ⟨.useCase, d.issued + n⟩ = ⟨.useCase, d'.issued + n⟩

abbrev Simulates {α α' : Type} (f : Id → Id) (answer : α → α') (x : Editing UseCaseDiagram α)
    (y : Editing UseCaseDiagram α') (d d' : UseCaseDiagram) : Prop :=
  Stateful.Simulates (Alike f) (Relabeling.ofRecords f).rejection answer x y d d'

variable {f : Id → Id} {d d' : UseCaseDiagram}

section Checks

open Relabeling

private theorem fixes_newActor (d : UseCaseDiagram) (name : String) :
    (ofRecords f).Fixes (d.newActor name) := by
  refine .bind _ (fixes_newName f _ _ _) fun text => ?_
  refine .bind _ (fixes_requireDistinct f _ _ _ _) fun _ => ?_
  exact .bind _ (fixes_requireDistinct f _ _ _ _) fun _ => rfl

private theorem fixes_newUseCase (d : UseCaseDiagram) (name : String) :
    (ofRecords f).Fixes (d.newUseCase name) := by
  refine .bind _ (fixes_newName f _ _ _) fun text => ?_
  exact .bind _ (fixes_requireDistinct f _ _ _ _) fun _ => rfl

private theorem fixes_newEnds (d : UseCaseDiagram) (actor useCase : Option String) :
    (ofRecords f).Fixes (d.newEnds actor useCase) := by
  refine .bind _ (fixes_requireNodes f _ _ _) fun _ => ?_
  refine .bind _ (fixes_requireNodes f _ _ _) fun _ => ?_
  refine .bind _ (fixes_pickEnd f _ _ _ _) fun a => ?_
  exact .bind _ (fixes_pickEnd f _ _ _ _) fun u => rfl

end Checks

namespace Alike

variable (h : Alike f d d')
include h

private theorem newActor (name : String) :
    d'.newActor name = outcomeImage (Relabeling.ofRecords f).rejection id (d.newActor name) := by
  have hsame : d'.newActor name = d.newActor name := by
    rw [UseCaseDiagram.newActor, UseCaseDiagram.newActor, h.actors, h.useCases]
  exact hsame.trans (fixes_newActor d name)

private theorem newUseCase (name : String) :
    d'.newUseCase name =
      outcomeImage (Relabeling.ofRecords f).rejection id (d.newUseCase name) := by
  have hsame : d'.newUseCase name = d.newUseCase name := by
    rw [UseCaseDiagram.newUseCase, UseCaseDiagram.newUseCase, h.actors, h.useCases]
  exact hsame.trans (fixes_newUseCase d name)

private theorem newEnds (actor useCase : Option String) :
    d'.newEnds actor useCase =
      outcomeImage (Relabeling.ofRecords f).rejection id (d.newEnds actor useCase) := by
  have hsame : d'.newEnds actor useCase = d.newEnds actor useCase := by
    rw [UseCaseDiagram.newEnds, UseCaseDiagram.newEnds, h.actors, h.useCases]
  exact hsame.trans (fixes_newEnds d actor useCase)

theorem clear : Alike f d.clear d'.clear :=
  { h with actors := rfl, useCases := rfl, links := rfl }

private theorem addActor_simulates (name : String) : Simulates f id (addActor name) (addActor name)
    d d' := by
  rw [Simulates, Stateful.Simulates, addActor_run, addActor_run, h.newActor]
  cases d.newActor name with
  | ok text => exact .ok () { h with actors := by simp [touch, withActor, h.actors] }
  | error e => exact .error e h

private theorem addUseCase_simulates (name : String) :
    Simulates f id (addUseCase name) (addUseCase name) d d' := by
  rw [Simulates, Stateful.Simulates, addUseCase_run, addUseCase_run, h.newUseCase]
  cases d.newUseCase name with
  | ok text => exact .ok () { h with useCases := by simp [touch, withUseCase, h.useCases] }
  | error e => exact .error e h

private theorem removeActor_simulates (name : String) :
    Simulates f id (removeActor name) (removeActor name) d d' := by
  rw [Simulates, Stateful.Simulates, removeActor_run, removeActor_run, h.actors]
  by_cases hname : name ∈ d.actors
  · rw [if_pos hname, if_pos hname]
    refine .ok true { h with actors := ?_, links := ?_ }
    · simp [touch, withoutLinksFrom, withoutActor, h.actors]
    · simp [touch, withoutLinksFrom, withoutActor, h.links, List.filter_map, Function.comp_def]
  · rw [if_neg hname, if_neg hname]
    exact .ok false h

private theorem removeUseCase_simulates (name : String) :
    Simulates f id (removeUseCase name) (removeUseCase name) d d' := by
  rw [Simulates, Stateful.Simulates, removeUseCase_run, removeUseCase_run, h.useCases]
  by_cases hname : name ∈ d.useCases
  · rw [if_pos hname, if_pos hname]
    refine .ok true { h with useCases := ?_, links := ?_ }
    · simp [touch, withoutLinksTo, withoutUseCase, h.useCases]
    · simp [touch, withoutLinksTo, withoutUseCase, h.links, List.filter_map, Function.comp_def]
  · rw [if_neg hname, if_neg hname]
    exact .ok false h

private theorem addLink_simulates (actor useCase : Option String) :
    Simulates f f (addLink actor useCase) (addLink actor useCase) d d' := by
  have hid : d'.nextId = f d.nextId := (h.ids 0).symm
  rw [Simulates, Stateful.Simulates, addLink_run, addLink_run, h.newEnds, hid]
  cases d.newEnds actor useCase with
  | ok ends =>
    refine .ok d.nextId { h with links := ?_, ids := fun n => ?_ }
    · simp [touch, withLink, countId, h.links]
    · have hn := h.ids (1 + n)
      rw [← Nat.add_assoc, ← Nat.add_assoc] at hn
      exact hn
  | error e => exact .error e h

private theorem removeLink_simulates (hf : Function.Injective f) (id : Id) :
    Simulates f (fun found => found) (removeLink id) (removeLink (f id)) d d' := by
  have hmem : f id ∈ d'.links.map (·.id) ↔ id ∈ d.links.map (·.id) := by
    rw [h.links, List.map_map]
    simp [hf.eq_iff]
  rw [Simulates, Stateful.Simulates, removeLink_run, removeLink_run]
  by_cases hid : id ∈ d.links.map (·.id)
  · rw [if_pos hid, if_pos (hmem.mpr hid)]
    refine .ok true { h with links := ?_ }
    rw [touch, withoutLink, h.links]
    refine filter_map_of fun l _ => ?_
    simp [hf.eq_iff]
  · rw [if_neg hid, if_neg (mt hmem.mp hid)]
    exact .ok false h

end Alike

theorem apply_simulates (hf : Function.Injective f) (h : Alike f d d') (edit : UseCaseEdit) :
    Simulates f (Relabeling.ofRecords f).reply (apply edit) (apply (edit.renumbered f)) d d' := by
  cases edit with
  | addActor name => exact (h.addActor_simulates name).answer fun _ => rfl
  | removeActor name => exact (h.removeActor_simulates name).answer fun _ => rfl
  | addUseCase name => exact (h.addUseCase_simulates name).answer fun _ => rfl
  | removeUseCase name => exact (h.removeUseCase_simulates name).answer fun _ => rfl
  | addLink actor useCase => exact (h.addLink_simulates actor useCase).answer fun _ => rfl
  | removeLink id => exact (h.removeLink_simulates hf id).answer fun _ => rfl

end UseCaseDiagram

end UmlDiagrams
