import UmlDiagrams.Proofs.Diagram.Keeps
import UmlDiagrams.Store

namespace UmlDiagrams.Store

open Stateful

/-- The invariant: each diagram is sound, whichever kind is active. -/
structure Sound (s : Store) : Prop where
  sequence : s.sequence.Sound SequenceDiagram.rules Text.IsName
  classes : s.classes.Sound ClassDiagram.rules ClassRecord.Named
  useCase : s.useCase.Sound
  entity : s.entity.Sound EntityDiagram.rules EntityRecord.Named
  activity : s.activity.Sound FlowDiagram.activityRules Text.IsName
  component : s.component.Sound FlowDiagram.componentRules Text.IsName
  state : s.state.Sound StateDiagram.rules Text.IsName

theorem initial_sound (style : Style) : Sound { style } where
  sequence := Graph.sound_empty 0 []
  classes := Graph.sound_empty 0 []
  useCase := UseCaseDiagram.sound_empty 0 []
  entity := Graph.sound_empty 0 []
  activity := Graph.sound_empty 0 []
  component := Graph.sound_empty 0 []
  state := Graph.sound_empty 0 []

variable {s : Store}

theorem setKind_sound (h : s.Sound) (kind : Kind) : (s.setKind kind).Sound := by
  rw [setKind]
  by_cases hk : s.kind = kind
  · rw [if_pos hk]
    exact h
  · rw [if_neg hk]
    exact { h with }

private theorem clear_sound (h : s.Sound) : s.clear.Sound := by
  rw [clear]
  cases s.kind with
  | sequence => exact { h with sequence := Graph.clear_sound }
  | classes => exact { h with classes := Graph.clear_sound }
  | useCase => exact { h with useCase := UseCaseDiagram.clear_sound }
  | entity => exact { h with entity := Graph.clear_sound }
  | activity => exact { h with activity := Graph.clear_sound }
  | component => exact { h with component := Graph.clear_sound }
  | state => exact { h with state := Graph.clear_sound }

theorem takeChanges_sound (h : s.Sound) : s.takeChanges.2.Sound where
  sequence := Graph.changes_sound h.sequence []
  classes := Graph.changes_sound h.classes []
  useCase := UseCaseDiagram.changes_sound h.useCase []
  entity := Graph.changes_sound h.entity []
  activity := Graph.changes_sound h.activity []
  component := Graph.changes_sound h.component []
  state := Graph.changes_sound h.state []

private theorem style_keeps_sound (edit : StyleEdit) : Keeps Sound (apply (.style edit)) := by
  apply Keeps.bind
  · intro s h
    rw [after_within]
    exact { h with }
  · intro _
    apply Keeps.answer
    apply Keeps.modify
    exact fun s h => { h with }

theorem apply_keeps (edit : Edit) : Keeps Sound (apply edit) := by
  intro s h
  cases edit with
  | sequence edit =>
    rw [apply, after_within]
    exact { h with sequence := SequenceDiagram.apply_keeps edit _ h.sequence }
  | classes edit =>
    rw [apply, after_within]
    exact { h with classes := ClassDiagram.apply_keeps edit _ h.classes }
  | useCase edit =>
    rw [apply, after_within]
    exact { h with useCase := UseCaseDiagram.apply_keeps edit _ h.useCase }
  | entity edit =>
    rw [apply, after_within]
    exact { h with entity := EntityDiagram.apply_keeps edit _ h.entity }
  | activity edit =>
    rw [apply, after_within]
    exact { h with activity := FlowDiagram.apply_keeps _ _ _ edit _ h.activity }
  | component edit =>
    rw [apply, after_within]
    exact { h with component := FlowDiagram.apply_keeps _ _ _ edit _ h.component }
  | state edit =>
    rw [apply, after_within]
    exact { h with state := StateDiagram.apply_keeps edit _ h.state }
  | style edit => exact style_keeps_sound edit s h
  | setKind kind => exact setKind_sound h kind
  | clear => exact clear_sound h

private theorem step_sound (h : s.Sound) (operation : Operation) : (s.step operation).Sound := by
  cases operation with
  | edit edit => exact apply_keeps edit s h
  | takeChanges => exact takeChanges_sound h

theorem run_sound (h : s.Sound) (operations : List Operation) : (s.run operations).Sound := by
  induction operations generalizing s with
  | nil => exact h
  | cons operation operations ih => exact ih (step_sound h operation)

/-- Whatever operations are tried on a new store, all its diagrams stay sound. -/
theorem reachable_sound (style : Style) (operations : List Operation) :
    (run { style } operations).Sound :=
  run_sound (initial_sound style) operations

end UmlDiagrams.Store
