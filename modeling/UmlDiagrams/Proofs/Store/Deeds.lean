import UmlDiagrams.Proofs.Store.Slots
/-!
# What edits do to the records

Seen as one table of records by collection, a store changes in four ways only: a record is added at
the end of its collection, changed in its place, removed with the relationships at it, or records go
away and none comes. Each accepted edit is one of these.
-/

namespace UmlDiagrams

open Stateful

variable {s s' : Store}

private theorem SequenceEdit.Effect.done {edit : SequenceEdit} {d : SequenceDiagram}
    (h : edit.Effect s.sequence d) : edit.deed.Done s { s with sequence := d } := by
  cases edit with
  | addActor name => exact SequenceDiagram.slot_ofNames.addedNode_done (fun _ n => n) h
  | removeActor name => exact SequenceDiagram.slot.removedNode_cleared h
  | addMessage source target arrow text => exact SequenceDiagram.slot.addedEdge_done h
  | removeMessage id => exact SequenceDiagram.slot.removedEdge_done h
  | retarget id source target => exact SequenceDiagram.slot.changedEdge_done h
  | setArrow id arrow => exact SequenceDiagram.slot.changedEdge_done h
  | setText id text => exact SequenceDiagram.slot.changedEdge_done h

private theorem StateEdit.Effect.done {edit : StateEdit} {d : StateDiagram}
    (h : edit.Effect s.state d) :
    edit.deed.Done s { s with state := d } := by
  have hnames : StateDiagram.slot.OfNames := ⟨fun _ => rfl, rfl⟩
  cases edit with
  | addState name => exact hnames.addedNode_done (fun _ n => n) h
  | removeState name => exact StateDiagram.slot.removedNode_cleared h
  | addTransition source target event => exact StateDiagram.slot.addedEdge_done h
  | removeTransition id => exact StateDiagram.slot.removedEdge_done h
  | setEvent id event => exact StateDiagram.slot.changedEdge_done h

private theorem FlowEdit.Effect.done {R : Rules String String Unit} {V : Slot R} (hV : V.OfNames)
    {edit : FlowEdit} {d : FlowDiagram} (h : edit.Effect R (V.part s) d) :
    (edit.deed R.nodes R.edges).Done s (V.put s d) := by
  cases edit with
  | addNode name => exact hV.addedNode_done (fun _ n => n) h
  | removeNode name => exact V.removedNode_cleared h
  | addEdge source target => exact V.addedEdge_done h
  | removeEdge id => exact V.removedEdge_done h

private theorem ClassEdit.Effect.done {edit : ClassEdit} {d : ClassDiagram}
    (h : edit.Effect s.classes d) :
    edit.deed.Done s { s with classes := d } := by
  have hV := ClassDiagram.slot_ofRecords
  have hflag : ∀ old new, ClassRecord.FlagOnly old new → new.id = old.id := by
    rintro old _ ⟨isAbstract, rfl⟩
    rfl
  have hattributes : ∀ old new, ClassRecord.AttributesOnly old new → new.id = old.id := by
    rintro old _ ⟨attributes, rfl⟩
    rfl
  have hmethods : ∀ old new, ClassRecord.MethodsOnly old new → new.id = old.id := by
    rintro old _ ⟨methods, rfl⟩
    rfl
  cases edit with
  | addClass name isAbstract =>
    exact hV.addedNode_done (fun id name => ⟨id, name, isAbstract, [], []⟩) (fun _ _ => rfl) h
  | removeClass id => exact hV.removedNode_done h
  | setAbstract id isAbstract => exact hV.changedNode_done hflag h
  | addAttribute id attr => exact hV.changedNode_done hattributes h
  | removeAttribute id index => exact hV.changedNode_done hattributes h
  | addMethod id method => exact hV.changedNode_done hmethods h
  | removeMethod id index => exact hV.changedNode_done hmethods h
  | addRelationship source target kind label => exact ClassDiagram.slot.addedEdge_done h
  | removeRelationship id => exact ClassDiagram.slot.removedEdge_done h
  | setKind id kind => exact ClassDiagram.slot.changedEdge_done h
  | retarget id source target => exact ClassDiagram.slot.changedEdge_done h
  | setLabel id label => exact ClassDiagram.slot.changedEdge_done h

private theorem EntityEdit.Effect.done {edit : EntityEdit} {d : EntityDiagram}
    (h : edit.Effect s.entity d) : edit.deed.Done s { s with entity := d } := by
  have hV := EntityDiagram.slot_ofRecords
  have hattributes : ∀ old new, EntityRecord.AttributesOnly old new → new.id = old.id := by
    rintro old _ ⟨attributes, rfl⟩
    rfl
  cases edit with
  | addEntity name => exact hV.addedNode_done (fun id name => ⟨id, name, []⟩) (fun _ _ => rfl) h
  | removeEntity id => exact hV.removedNode_done h
  | addAttribute id attr => exact hV.changedNode_done hattributes h
  | removeAttribute id index => exact hV.changedNode_done hattributes h
  | addRelationship source target kind label => exact EntityDiagram.slot.addedEdge_done h
  | removeRelationship id => exact EntityDiagram.slot.removedEdge_done h
  | setKind id kind => exact EntityDiagram.slot.changedEdge_done h
  | retarget id source target => exact EntityDiagram.slot.changedEdge_done h
  | setLabel id label => exact EntityDiagram.slot.changedEdge_done h

namespace UseCaseDiagram

variable {d : UseCaseDiagram} {c : Collection}

theorem put_records (hactors : c ≠ .useCaseActors → d.actors = s.useCase.actors)
    (huseCases : c ≠ .useCases → d.useCases = s.useCase.useCases)
    (hlinks : c ≠ .useCaseLinks → d.links = s.useCase.links) :
    ({ s with useCase := d } : Store).records =
      Function.update s.records c (({ s with useCase := d } : Store).records c) := by
  funext c'
  by_cases hc : c' = c
  · rw [hc, Function.update_self]
  · rw [Function.update_of_ne hc]
    cases c' with
    | useCaseActors => exact congrArg (List.map Record.name) (hactors (Ne.symm hc))
    | useCases => exact congrArg (List.map Record.name) (huseCases (Ne.symm hc))
    | useCaseLinks => exact congrArg (List.map Record.useCaseLink) (hlinks (Ne.symm hc))
    | _ => rfl

private theorem put_issued (hissued : d.issued = s.useCase.issued) :
    ({ s with useCase := d } : Store).issued = s.issued := by
  funext kind
  cases kind <;> first | rfl | exact hissued

private theorem addedName_done {text : String} (hc : c.numbering? = none)
    (hactors : c ≠ .useCaseActors → d.actors = s.useCase.actors)
    (huseCases : c ≠ .useCases → d.useCases = s.useCase.useCases)
    (hlinks : c ≠ .useCaseLinks → d.links = s.useCase.links)
    (hrecords : ({ s with useCase := d } : Store).records c = s.records c ++ [.name text])
    (hissued : d.issued = s.useCase.issued) :
    (Deed.add c).Done s { s with useCase := d } := by
  refine ⟨⟨.name text, ?_, ?_⟩, fun kind => ?_, fun kind hkind => ?_⟩
  · rw [hc]
    rfl
  · rw [put_records hactors huseCases hlinks, hrecords]
  · rw [put_issued hissued]
  · rw [hc] at hkind
    cases hkind

private theorem cleared_done (hactors : d.actors.Sublist s.useCase.actors)
    (huseCases : d.useCases.Sublist s.useCase.useCases) (hlinks : d.links.Sublist s.useCase.links)
    (hissued : d.issued = s.useCase.issued) : Deed.clear.Done s { s with useCase := d } := by
  refine ⟨fun c => ?_, put_issued hissued⟩
  cases c with
  | useCaseActors => exact hactors.map _
  | useCases => exact huseCases.map _
  | useCaseLinks => exact hlinks.map _
  | _ => exact List.Sublist.refl _

end UseCaseDiagram

private theorem UseCaseEdit.Effect.done {edit : UseCaseEdit} {d : UseCaseDiagram}
    (h : edit.Effect s.useCase d) : edit.deed.Done s { s with useCase := d } := by
  cases edit with
  | addActor name =>
    obtain ⟨text, -, rfl⟩ := h
    exact UseCaseDiagram.addedName_done rfl (absurd rfl) (fun _ => rfl) (fun _ => rfl)
      List.map_append rfl
  | removeActor name =>
    obtain ⟨-, rfl⟩ := h
    exact UseCaseDiagram.cleared_done List.filter_sublist (List.Sublist.refl _)
      List.filter_sublist rfl
  | addUseCase name =>
    obtain ⟨text, -, rfl⟩ := h
    exact UseCaseDiagram.addedName_done rfl (fun _ => rfl) (absurd rfl) (fun _ => rfl)
      List.map_append rfl
  | removeUseCase name =>
    obtain ⟨-, rfl⟩ := h
    exact UseCaseDiagram.cleared_done (List.Sublist.refl _) List.filter_sublist
      List.filter_sublist rfl
  | addLink actor useCase =>
    obtain ⟨a, u, -, rfl⟩ := h
    refine ⟨⟨.useCaseLink ⟨s.useCase.nextId, a, u⟩, rfl, ?_⟩, fun kind => ?_, fun kind hkind => ?_⟩
    · have hrecords := UseCaseDiagram.put_records (s := s) (c := .useCaseLinks)
        (d := (s.useCase.countId.withLink ⟨s.useCase.nextId, a, u⟩).touch [.useCaseLinks])
        (fun _ => rfl) (fun _ => rfl) (absurd rfl)
      rw [hrecords]
      exact congrArg _ List.map_append
    · cases kind <;> first | exact Nat.le_refl _ | exact Nat.le_succ _
    · cases hkind
      exact Nat.lt_succ_self _
  | removeLink id =>
    obtain ⟨hid, rfl⟩ := h
    refine ⟨?_, fun c' => ?_, UseCaseDiagram.put_issued rfl, ⟨rfl, rfl, rfl⟩⟩
    · simpa [Store.idsIn, Store.records, Record.id?] using hid
    · have hrecords := UseCaseDiagram.put_records (s := s) (c := .useCaseLinks)
        (d := (s.useCase.withoutLink id).touch [.useCaseLinks]) (fun _ => rfl) (fun _ => rfl)
        (absurd rfl)
      rw [hrecords, Function.update_apply]
      by_cases hc : c' = .useCaseLinks
      · rw [if_pos hc, if_pos hc, hc]
        exact (filter_map_of fun l _ => by simp [Record.id?]).symm
      · rw [if_neg hc, if_neg hc, if_neg fun h => by cases h]

namespace Store

private theorem setKind_done (kind : Kind) : Deed.clear.Done s (s.setKind kind) := by
  rw [setKind]
  by_cases h : s.kind = kind
  · rw [if_pos h]
    exact ⟨fun c => List.Sublist.refl _, rfl⟩
  · rw [if_neg h]
    exact ⟨fun c => by cases c <;> exact List.Sublist.refl _, by funext kind; cases kind <;> rfl⟩

private theorem clear_done : Deed.clear.Done s s.clear := by
  -- The counting of the clearing does not show in the records.
  have hcounted {s' : Store} (h : Deed.clear.Done { s with epoch := s.epoch + 1 } s') :
      Deed.clear.Done s s' := by
    obtain ⟨hrecords, hissued⟩ := h
    refine ⟨fun c => ?_, hissued.trans ?_⟩
    · have hc := hrecords c
      cases c <;> exact hc
    · funext kind
      cases kind <;> rfl
  have hnil {α : Type} (l : List α) : ([] : List α).Sublist l := List.nil_sublist l
  refine hcounted ?_
  rw [clear]
  cases s.kind with
  | sequence => exact SequenceDiagram.slot.cleared_done (hnil _) (hnil _) rfl
  | classes => exact ClassDiagram.slot.cleared_done (hnil _) (hnil _) rfl
  | useCase => exact UseCaseDiagram.cleared_done (hnil _) (hnil _) (hnil _) rfl
  | entity => exact EntityDiagram.slot.cleared_done (hnil _) (hnil _) rfl
  | activity => exact FlowDiagram.activitySlot.cleared_done (hnil _) (hnil _) rfl
  | component => exact FlowDiagram.componentSlot.cleared_done (hnil _) (hnil _) rfl
  | state => exact StateDiagram.slot.cleared_done (hnil _) (hnil _) rfl

private theorem effect_done {edit : Edit} (h : edit.Effect s s') : edit.deed.Done s s' := by
  cases edit with
  | sequence edit =>
    obtain ⟨d, hd, rfl⟩ := h
    exact hd.done
  | classes edit =>
    obtain ⟨d, hd, rfl⟩ := h
    exact hd.done
  | useCase edit =>
    obtain ⟨d, hd, rfl⟩ := h
    exact hd.done
  | entity edit =>
    obtain ⟨d, hd, rfl⟩ := h
    exact hd.done
  | activity edit =>
    obtain ⟨d, hd, rfl⟩ := h
    exact FlowEdit.Effect.done (V := FlowDiagram.activitySlot) ⟨fun _ => rfl, rfl⟩ hd
  | component edit =>
    obtain ⟨d, hd, rfl⟩ := h
    exact FlowEdit.Effect.done (V := FlowDiagram.componentSlot) ⟨fun _ => rfl, rfl⟩ hd
  | state edit =>
    obtain ⟨d, hd, rfl⟩ := h
    exact hd.done
  | style edit =>
    obtain ⟨style, -, rfl⟩ := h
    exact ⟨fun c => by cases c <;> exact List.Sublist.refl _, by funext kind; cases kind <;> rfl⟩
  | setKind kind =>
    cases h
    exact setKind_done kind
  | clear =>
    cases h
    exact clear_done

/-- An edit that is accepted does its deed. -/
theorem deed_effects (edit : Edit) :
    Effects Reply.Refuses (fun s s' => edit.deed.Done s s') (apply edit) :=
  (apply_effects edit).imp fun _ _ h => effect_done h

private theorem takeChanges_done (s : Store) : Deed.clear.Done s s.takeChanges.2 :=
  ⟨fun c => by cases c <;> exact List.Sublist.refl _, by funext kind; cases kind <;> rfl⟩

/-- A step does nothing, or the deed of its operation. -/
theorem step_done (s : Store) (operation : Operation) :
    s.step operation = s ∨ operation.deed.Done s (s.step operation) := by
  cases operation with
  | edit edit => exact (deed_effects edit).after_cases s
  | takeChanges => exact .inr s.takeChanges_done

end Store

end UmlDiagrams
