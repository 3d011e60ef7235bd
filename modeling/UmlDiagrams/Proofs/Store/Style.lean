import UmlDiagrams.Proofs.Graph.Checks
import UmlDiagrams.Proofs.Stateful
import UmlDiagrams.Proofs.Text.Trim
import UmlDiagrams.Store

namespace UmlDiagrams

open Stateful

theorem Color.parse_eq_ok {s value : String} :
    Color.parse s = .ok value ↔ value = Text.trim s ∧ Color.isColor value := by
  simp only [Color.parse]
  by_cases h : Color.isColor (Text.trim s)
  · rw [if_pos h]
    constructor
    · intro hok
      cases hok
      exact ⟨rfl, h⟩
    · intro hvalue
      rw [hvalue.1]
  · rw [if_neg h]
    constructor
    · intro hok
      cases hok
    · intro hvalue
      exact absurd (hvalue.1 ▸ hvalue.2) h

theorem Color.parse_of_parse {s value : String} (h : Color.parse s = .ok value) :
    Color.parse value = .ok value := by
  obtain ⟨rfl, hcolor⟩ := Color.parse_eq_ok.mp h
  exact Color.parse_eq_ok.mpr ⟨(Text.trim_trim s).symm, hcolor⟩

namespace Style

/-- Every color is one, and stands without blanks around it. -/
structure Valid (s : Style) : Prop where
  background : Color.parse s.background = .ok s.background
  text : Color.parse s.text = .ok s.text
  primary : Color.parse s.primary = .ok s.primary

theorem default_valid : Valid {} := by
  constructor <;> decide

theorem validated_valid {raw s : Style} (h : raw.validated = .ok s) : s.Valid := by
  obtain ⟨background, hbackground, h⟩ := bind_eq_ok.mp h
  obtain ⟨text, htext, h⟩ := bind_eq_ok.mp h
  obtain ⟨primary, hprimary, h⟩ := bind_eq_ok.mp h
  cases h
  exact ⟨Color.parse_of_parse hbackground, Color.parse_of_parse htext,
    Color.parse_of_parse hprimary⟩

/-- A style that a store can start with: the default, or one that was validated. -/
def Initial (s : Style) : Prop :=
  s = {} ∨ ∃ raw : Style, raw.validated = .ok s

theorem Initial.valid {s : Style} (h : s.Initial) : s.Valid := by
  rcases h with rfl | ⟨raw, hraw⟩
  · exact default_valid
  · exact validated_valid hraw

end Style

/-- What an edit makes of a style. -/
def StyleEdit.revised (s : Style) : StyleEdit → Except Rejection Style
  | .background color => return { s with background := ← Color.parse color }
  | .text color => return { s with text := ← Color.parse color }
  | .primary color => return { s with primary := ← Color.parse color }
  | .direction value => return { s with direction := value }
  | .all style => style.validated

namespace Style

private theorem apply_run (edit : StyleEdit) (s : Style) :
    (apply edit).run s =
      match edit.revised s with
      | .ok s' => .ok () s'
      | .error e => .error e s := by
  cases edit with
  | background color =>
    cases h : Color.parse color <;> simp [apply, StyleEdit.revised, h]
  | text color =>
    cases h : Color.parse color <;> simp [apply, StyleEdit.revised, h]
  | primary color =>
    cases h : Color.parse color <;> simp [apply, StyleEdit.revised, h]
  | direction direction => rfl
  | all style =>
    cases h : style.validated <;> simp [apply, StyleEdit.revised, h]

private theorem revised_valid {s s' : Style} {edit : StyleEdit} (hs : s.Valid)
    (h : edit.revised s = .ok s') : s'.Valid := by
  cases edit with
  | background color =>
    obtain ⟨value, hvalue, h⟩ := bind_eq_ok.mp h
    cases h
    exact { hs with background := Color.parse_of_parse hvalue }
  | text color =>
    obtain ⟨value, hvalue, h⟩ := bind_eq_ok.mp h
    cases h
    exact { hs with text := Color.parse_of_parse hvalue }
  | primary color =>
    obtain ⟨value, hvalue, h⟩ := bind_eq_ok.mp h
    cases h
    exact { hs with primary := Color.parse_of_parse hvalue }
  | direction direction =>
    cases h
    exact { hs with }
  | all style => exact validated_valid h

end Style

def Edit.isStyle : Edit → Bool
  | style _ => true
  | _ => false

namespace Store

variable {s t : Store} {edit : Edit} {kind : Kind}

theorem style_run (edit : StyleEdit) (s : Store) :
    (apply (.style edit)).run s =
      match edit.revised s.style with
      | .ok style => .ok .done { s with style, styleChanges := notice s.styleChanges [.style] }
      | .error e => .error e s := by
  have hrun := Style.apply_run edit s.style
  cases h : edit.revised s.style with
  | ok style =>
    rw [h] at hrun
    simp [apply, run_within, hrun]
  | error e =>
    rw [h] at hrun
    simp [apply, run_within, hrun]

theorem setKind_style : (s.setKind kind).style = s.style := by
  rw [setKind]
  by_cases h : s.kind = kind
  · rw [if_pos h]
  · rw [if_neg h]

theorem setKind_styleChanges : (s.setKind kind).styleChanges = s.styleChanges := by
  rw [setKind]
  by_cases h : s.kind = kind
  · rw [if_pos h]
  · rw [if_neg h]

theorem clear_style : s.clear.style = s.style := by
  rw [clear]
  cases s.kind <;> rfl

theorem clear_styleChanges : s.clear.styleChanges = s.styleChanges := by
  rw [clear]
  cases s.kind <;> rfl

theorem after_style_of_not_isStyle (h : edit.isStyle = false) :
    ((apply edit).after s).style = s.style ∧
      ((apply edit).after s).styleChanges = s.styleChanges := by
  cases edit with
  | style styleEdit => cases h
  | setKind kind => exact ⟨setKind_style, setKind_styleChanges⟩
  | clear => exact ⟨clear_style, clear_styleChanges⟩
  | _ =>
    rw [apply, after_within]
    exact ⟨rfl, rfl⟩

/-- What an edit makes of the style depends on nothing but the style. -/
theorem after_style_congr (hedit : edit.isStyle) (hstyle : s.style = t.style)
    (hchanges : s.styleChanges = t.styleChanges) :
    ((apply edit).after s).style = ((apply edit).after t).style ∧
      ((apply edit).after s).styleChanges = ((apply edit).after t).styleChanges := by
  cases edit with
  | style styleEdit =>
    rw [after, after, style_run, style_run, hstyle]
    cases styleEdit.revised t.style with
    | ok style => exact ⟨rfl, congrArg (notice · _) hchanges⟩
    | error e => exact ⟨hstyle, hchanges⟩
  | _ => cases hedit

theorem step_style_valid (h : s.style.Valid) (operation : Operation) :
    (s.step operation).style.Valid := by
  cases operation with
  | takeChanges => exact h
  | edit edit =>
    cases edit with
    | style styleEdit =>
      rw [step, after, style_run]
      cases hr : styleEdit.revised s.style with
      | ok style => exact Style.revised_valid h hr
      | error e => exact h
    | _ =>
      rw [step, (after_style_of_not_isStyle rfl).1]
      exact h

/-- A store that starts with a valid style never has another. -/
theorem run_style_valid (h : s.style.Valid) (operations : List Operation) :
    (s.run operations).style.Valid := by
  induction operations generalizing s with
  | nil => exact h
  | cons operation operations ih => exact ih (step_style_valid h operation)

end Store

end UmlDiagrams
