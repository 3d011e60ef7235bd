import UmlDiagrams.Proofs.Diagram.Effects
import UmlDiagrams.Proofs.Store.Style

namespace UmlDiagrams

open Stateful

def Edit.Effect : Edit → Store → Store → Prop
  | .sequence edit => fun s s' =>
    ∃ d, edit.Effect s.sequence d ∧ s' = { s with sequence := d }
  | .classes edit => fun s s' => ∃ d, edit.Effect s.classes d ∧ s' = { s with classes := d }
  | .useCase edit => fun s s' => ∃ d, edit.Effect s.useCase d ∧ s' = { s with useCase := d }
  | .entity edit => fun s s' => ∃ d, edit.Effect s.entity d ∧ s' = { s with entity := d }
  | .activity edit => fun s s' =>
    ∃ d, edit.Effect FlowDiagram.activityRules s.activity d ∧ s' = { s with activity := d }
  | .component edit => fun s s' =>
    ∃ d, edit.Effect FlowDiagram.componentRules s.component d ∧ s' = { s with component := d }
  | .state edit => fun s s' => ∃ d, edit.Effect s.state d ∧ s' = { s with state := d }
  | .style edit => fun s s' => ∃ style, edit.revised s.style = .ok style ∧
      s' = { s with style, styleChanges := notice s.styleChanges [.style] }
  | .setKind kind => fun s s' => s' = s.setKind kind
  | .clear => fun s s' => s' = s.clear

namespace Store

private theorem style_effects (edit : StyleEdit) :
    Effects Reply.Refuses (Edit.style edit).Effect (apply (.style edit)) := by
  intro s
  rw [style_run]
  cases h : edit.revised s.style with
  | error e => exact .failed e
  | ok style => exact .accepted _ _ (nomatch ·) ⟨style, h, rfl⟩

theorem apply_effects (edit : Edit) : Effects Reply.Refuses edit.Effect (apply edit) := by
  cases edit with
  | sequence edit => exact (SequenceDiagram.apply_effects edit).within fun _ => rfl
  | classes edit => exact (ClassDiagram.apply_effects edit).within fun _ => rfl
  | useCase edit => exact (UseCaseDiagram.apply_effects edit).within fun _ => rfl
  | entity edit => exact (EntityDiagram.apply_effects edit).within fun _ => rfl
  | activity edit => exact (FlowDiagram.apply_effects _ edit).within fun _ => rfl
  | component edit => exact (FlowDiagram.apply_effects _ edit).within fun _ => rfl
  | state edit => exact (StateDiagram.apply_effects edit).within fun _ => rfl
  | style edit => exact style_effects edit
  | setKind kind => exact fun s => .accepted _ _ (nomatch ·) rfl
  | clear => exact fun s => .accepted _ _ (nomatch ·) rfl

/-- Whatever a store holds, an edit that is rejected and a removal that finds nothing leave all of
it as it was: the diagrams with their orders and identifiers, the style, the active kind, the epoch
and the pending change notices. -/
theorem refused_unchanged {s : Store} {edit : Edit}
    (h : (∃ rejection, (apply edit).outcome s = .error rejection) ∨
      (apply edit).outcome s = .ok (.removed false)) : (apply edit).after s = s := by
  apply (apply_effects edit).unchanged
  rcases h with h | h
  · exact .inl h
  · exact .inr ⟨.removed false, rfl, h⟩

/-- A relationship cannot be made a second one of its kind, and a message cannot be removed as a
relationship. -/
theorem refused_unchanged_relationships :
    let operations : List Operation := [.edit (.classes (.addClass "A" false)),
      .edit (.classes (.addClass "B" false)),
      .edit (.classes (.addRelationship none none .association "")),
      .edit (.classes (.addRelationship none none .composition "has"))]
    let s := run {} operations
    let retype : Edit := .classes (.setKind ⟨.classes, 3⟩ .association)
    let remove : Edit := .classes (.removeRelationship ⟨.sequence, 3⟩)
    ((apply retype).outcome s = .error (.duplicateEdge .classRelationships) ∧
      (apply retype).after s = s) ∧
    (apply remove).outcome s = .ok (.removed false) ∧ (apply remove).after s = s := by
  intro operations s retype remove
  have hretype : (apply retype).outcome s = .error (.duplicateEdge .classRelationships) := by
    decide +kernel
  have hremove : (apply remove).outcome s = .ok (.removed false) := by decide +kernel
  exact ⟨⟨hretype, refused_unchanged (.inl ⟨_, hretype⟩)⟩, hremove,
    refused_unchanged (.inr hremove)⟩

end Store

end UmlDiagrams
