import UmlDiagrams.Proofs.Graph.Checks
import UmlDiagrams.Proofs.Stateful
import UmlDiagrams.Proofs.UseCase.Edits

namespace UmlDiagrams.UseCaseDiagram

open Stateful

def actorKeys (d : UseCaseDiagram) : List (List Char) :=
  d.actors.map (printKey .useCaseActors)

def useCaseKeys (d : UseCaseDiagram) : List (List Char) :=
  d.useCases.map (printKey .useCases)

structure Sound (d : UseCaseDiagram) : Prop where
  ends : ∀ l ∈ d.links, l.actor ∈ d.actors ∧ l.useCase ∈ d.useCases
  namedActors : ∀ n ∈ d.actors, Text.IsName n
  namedUseCases : ∀ n ∈ d.useCases, Text.IsName n
  /-- No two actors, no two use cases, and no actor and use case print alike. -/
  printKeys : (d.actorKeys ++ d.useCaseKeys).Nodup
  linkIds : (d.links.map (·.id)).Nodup
  linksIssued : ∀ l ∈ d.links, l.id.kind = .useCase ∧ l.id.serial < d.issued

variable {d : UseCaseDiagram}

/-- Actors and use cases are compared by the same keys, so the second comparison with the actors
refuses nothing that the first accepts. -/
theorem newActor_eq_ok {name text : String} :
    d.newActor name = .ok text ↔
      newName .useCaseActors d.actors name = .ok text ∧
        ∀ n ∈ d.useCases, printKey .useCases n ≠ printKey .useCaseActors text := by
  constructor
  · intro h
    obtain ⟨a, hname, h⟩ := bind_eq_ok.mp h
    obtain ⟨⟨⟩, hdistinct, h⟩ := bind_eq_ok.mp h
    obtain ⟨⟨⟩, -, h⟩ := bind_eq_ok.mp h
    cases h
    exact ⟨hname, requireDistinct_eq_ok.mp hdistinct⟩
  · intro hchecks
    obtain ⟨hname, hdistinct⟩ := hchecks
    have hagain : requireDistinct .useCases .useCaseActors d.actors text = .ok () :=
      requireDistinct_eq_ok.mpr (newName_eq_ok.mp hname).2.2
    refine bind_eq_ok.mpr ⟨text, hname, ?_⟩
    refine bind_eq_ok.mpr ⟨(), requireDistinct_eq_ok.mpr hdistinct, ?_⟩
    exact bind_eq_ok.mpr ⟨(), hagain, rfl⟩

theorem newUseCase_eq_ok {name text : String} :
    d.newUseCase name = .ok text ↔
      newName .useCases d.useCases name = .ok text ∧
        ∀ n ∈ d.actors, printKey .useCaseActors n ≠ printKey .useCases text := by
  constructor
  · intro h
    obtain ⟨a, hname, h⟩ := bind_eq_ok.mp h
    obtain ⟨⟨⟩, hdistinct, h⟩ := bind_eq_ok.mp h
    cases h
    exact ⟨hname, requireDistinct_eq_ok.mp hdistinct⟩
  · intro hchecks
    obtain ⟨hname, hdistinct⟩ := hchecks
    refine bind_eq_ok.mpr ⟨text, hname, ?_⟩
    exact bind_eq_ok.mpr ⟨(), requireDistinct_eq_ok.mpr hdistinct, rfl⟩

private theorem newEnds_eq_ok {actor useCase : Option String} {a u : String}
    (h : d.newEnds actor useCase = .ok (a, u)) : a ∈ d.actors ∧ u ∈ d.useCases := by
  obtain ⟨⟨⟩, -, h⟩ := bind_eq_ok.mp h
  obtain ⟨⟨⟩, -, h⟩ := bind_eq_ok.mp h
  obtain ⟨a', ha, h⟩ := bind_eq_ok.mp h
  obtain ⟨u', hu, h⟩ := bind_eq_ok.mp h
  cases h
  exact ⟨pickEnd_mem ha, pickEnd_mem hu⟩

theorem sound_empty (issued : Nat) (changes : List Collection) : Sound { issued, changes } := by
  constructor <;> simp [actorKeys, useCaseKeys]

theorem changes_sound (h : d.Sound) (changes : List Collection) : Sound { d with changes } :=
  ⟨h.ends, h.namedActors, h.namedUseCases, h.printKeys, h.linkIds, h.linksIssued⟩

private theorem touch_sound (h : d.Sound) (touched : List Collection) : (touch touched d).Sound :=
  changes_sound h _

private theorem nextId_notMem (h : d.Sound) : d.nextId ∉ d.links.map (·.id) := by
  intro hm
  obtain ⟨l, hl, hid⟩ := List.mem_map.mp hm
  have hlt := (h.linksIssued l hl).2
  rw [hid] at hlt
  exact Nat.lt_irrefl _ hlt

private theorem withActor_sound (h : d.Sound) {name : String} (hname : Text.IsName name)
    (ha : printKey .useCaseActors name ∉ d.actorKeys)
    (hu : printKey .useCaseActors name ∉ d.useCaseKeys) : (withActor name d).Sound := by
  have hkeys : (withActor name d).actorKeys ++ (withActor name d).useCaseKeys =
      d.actorKeys ++ printKey .useCaseActors name :: d.useCaseKeys := by
    simp [actorKeys, useCaseKeys, withActor]
  refine ⟨?_, ?_, h.namedUseCases, ?_, h.linkIds, h.linksIssued⟩
  · intro l hl
    exact ⟨List.mem_append_left _ (h.ends l hl).1, (h.ends l hl).2⟩
  · intro n hn
    rcases List.mem_append.mp hn with hn | hn
    · exact h.namedActors n hn
    · exact List.mem_singleton.mp hn ▸ hname
  · rw [hkeys, List.nodup_middle, List.nodup_cons]
    refine ⟨fun hm => ?_, h.printKeys⟩
    rcases List.mem_append.mp hm with hm | hm
    · exact ha hm
    · exact hu hm

private theorem withUseCase_sound (h : d.Sound) {name : String} (hname : Text.IsName name)
    (ha : printKey .useCases name ∉ d.actorKeys)
    (hu : printKey .useCases name ∉ d.useCaseKeys) : (withUseCase name d).Sound := by
  have hkeys : (withUseCase name d).actorKeys ++ (withUseCase name d).useCaseKeys =
      (d.actorKeys ++ d.useCaseKeys).concat (printKey .useCases name) := by
    simp [actorKeys, useCaseKeys, withUseCase]
  refine ⟨?_, h.namedActors, ?_, ?_, h.linkIds, h.linksIssued⟩
  · intro l hl
    exact ⟨(h.ends l hl).1, List.mem_append_left _ (h.ends l hl).2⟩
  · intro n hn
    rcases List.mem_append.mp hn with hn | hn
    · exact h.namedUseCases n hn
    · exact List.mem_singleton.mp hn ▸ hname
  · rw [hkeys]
    refine h.printKeys.concat fun hm => ?_
    rcases List.mem_append.mp hm with hm | hm
    · exact ha hm
    · exact hu hm

private theorem withoutActor_sound (h : d.Sound) (name : String) :
    (withoutLinksFrom name (withoutActor name d)).Sound := by
  have hactors : (withoutActor name d).actors.Sublist d.actors := List.filter_sublist
  have hlinks : (withoutLinksFrom name d).links.Sublist d.links := List.filter_sublist
  refine ⟨?_, fun n hn => h.namedActors n (hactors.subset hn), h.namedUseCases, ?_,
    h.linkIds.sublist (hlinks.map _), fun l hl => h.linksIssued l (hlinks.subset hl)⟩
  · intro l hl
    obtain ⟨hl, hne⟩ := List.mem_filter.mp hl
    exact ⟨List.mem_filter.mpr ⟨(h.ends l hl).1, hne⟩, (h.ends l hl).2⟩
  · exact h.printKeys.sublist ((hactors.map _).append (List.Sublist.refl _))

private theorem withoutUseCase_sound (h : d.Sound) (name : String) :
    (withoutLinksTo name (withoutUseCase name d)).Sound := by
  have huseCases : (withoutUseCase name d).useCases.Sublist d.useCases := List.filter_sublist
  have hlinks : (withoutLinksTo name d).links.Sublist d.links := List.filter_sublist
  refine ⟨?_, h.namedActors, fun n hn => h.namedUseCases n (huseCases.subset hn), ?_,
    h.linkIds.sublist (hlinks.map _), fun l hl => h.linksIssued l (hlinks.subset hl)⟩
  · intro l hl
    obtain ⟨hl, hne⟩ := List.mem_filter.mp hl
    exact ⟨(h.ends l hl).1, List.mem_filter.mpr ⟨(h.ends l hl).2, hne⟩⟩
  · exact h.printKeys.sublist ((List.Sublist.refl _).append (huseCases.map _))

private theorem withLink_sound (h : d.Sound) {actor useCase : String} (ha : actor ∈ d.actors)
    (hu : useCase ∈ d.useCases) : (withLink ⟨d.nextId, actor, useCase⟩ d.countId).Sound := by
  refine ⟨?_, h.namedActors, h.namedUseCases, h.printKeys, ?_, ?_⟩
  · intro l hl
    rcases List.mem_append.mp hl with hl | hl
    · exact h.ends l hl
    · rw [List.mem_singleton.mp hl]
      exact ⟨ha, hu⟩
  · rw [withLink, List.map_append, List.map_singleton, ← List.concat_eq_append]
    exact h.linkIds.concat (nextId_notMem h)
  · intro l hl
    rcases List.mem_append.mp hl with hl | hl
    · exact ⟨(h.linksIssued l hl).1, (h.linksIssued l hl).2.trans (Nat.lt_succ_self _)⟩
    · rw [List.mem_singleton.mp hl]
      exact ⟨rfl, Nat.lt_succ_self _⟩

private theorem withoutLink_sound (h : d.Sound) (id : Id) : (withoutLink id d).Sound := by
  have hlinks : (withoutLink id d).links.Sublist d.links := List.filter_sublist
  exact ⟨fun l hl => h.ends l (hlinks.subset hl), h.namedActors, h.namedUseCases, h.printKeys,
    h.linkIds.sublist (hlinks.map _), fun l hl => h.linksIssued l (hlinks.subset hl)⟩

theorem addActor_keeps (name : String) : Keeps Sound (addActor name) := by
  intro d hd
  rw [after, addActor_run]
  cases h : d.newActor name with
  | error e => exact hd
  | ok text =>
    obtain ⟨hname, hdistinct⟩ := newActor_eq_ok.mp h
    apply touch_sound
    apply withActor_sound hd (isName_of_newName hname)
    · intro hm
      obtain ⟨n, hn, heq⟩ := List.mem_map.mp hm
      exact (newName_eq_ok.mp hname).2.2 n hn heq
    · intro hm
      obtain ⟨n, hn, heq⟩ := List.mem_map.mp hm
      exact hdistinct n hn heq

theorem addUseCase_keeps (name : String) : Keeps Sound (addUseCase name) := by
  intro d hd
  rw [after, addUseCase_run]
  cases h : d.newUseCase name with
  | error e => exact hd
  | ok text =>
    obtain ⟨hname, hdistinct⟩ := newUseCase_eq_ok.mp h
    apply touch_sound
    apply withUseCase_sound hd (isName_of_newName hname)
    · intro hm
      obtain ⟨n, hn, heq⟩ := List.mem_map.mp hm
      exact hdistinct n hn heq
    · intro hm
      obtain ⟨n, hn, heq⟩ := List.mem_map.mp hm
      exact (newName_eq_ok.mp hname).2.2 n hn heq

theorem removeActor_keeps (name : String) : Keeps Sound (removeActor name) := by
  intro d hd
  rw [after, removeActor_run]
  by_cases h : name ∈ d.actors
  · rw [if_pos h]
    exact touch_sound (withoutActor_sound hd name) _
  · rw [if_neg h]
    exact hd

theorem removeUseCase_keeps (name : String) : Keeps Sound (removeUseCase name) := by
  intro d hd
  rw [after, removeUseCase_run]
  by_cases h : name ∈ d.useCases
  · rw [if_pos h]
    exact touch_sound (withoutUseCase_sound hd name) _
  · rw [if_neg h]
    exact hd

theorem addLink_keeps (actor useCase : Option String) : Keeps Sound (addLink actor useCase) := by
  intro d hd
  rw [after, addLink_run]
  cases h : d.newEnds actor useCase with
  | error e => exact hd
  | ok ends =>
    obtain ⟨a, u⟩ := ends
    obtain ⟨ha, hu⟩ := newEnds_eq_ok h
    exact touch_sound (withLink_sound hd ha hu) _

theorem removeLink_keeps (id : Id) : Keeps Sound (removeLink id) := by
  intro d hd
  rw [after, removeLink_run]
  by_cases h : id ∈ d.links.map (·.id)
  · rw [if_pos h]
    exact touch_sound (withoutLink_sound hd id) _
  · rw [if_neg h]
    exact hd

theorem clear_sound : d.clear.Sound :=
  touch_sound (sound_empty d.issued d.changes) _

end UmlDiagrams.UseCaseDiagram
