import UmlDiagrams.Proofs.Document.Apply
import UmlDiagrams.Proofs.Document.Parts
/-!
# The ways to a style

A style is set as a whole, field by field, by the table of a document, or by the configuration a
store begins with. All four read colors alike, and after any of them the style reads as itself.
-/

namespace UmlDiagrams

open Stateful

variable {style : Style} {edits : List StyleEdit}

def Style.colorEdits (style : Style) : List StyleEdit :=
  [.background style.background, .text style.text, .primary style.primary]

def Style.fieldEdits (style : Style) : List StyleEdit :=
  style.colorEdits ++ [.direction style.direction]

/-- To read a style is to set its fields in order, up to the first that is refused. -/
private theorem Style.validated_eq_foldlM (style s : Style) :
    style.validated = style.fieldEdits.foldlM StyleEdit.revised s := by
  simp only [validated, fieldEdits, colorEdits, List.cons_append, List.nil_append,
    List.foldlM_cons, List.foldlM_nil, StyleEdit.revised]
  cases Color.parse style.background with
  | error e => rfl
  | ok background =>
    cases Color.parse style.text with
    | error e => rfl
    | ok text =>
      cases Color.parse style.primary with
      | error e => rfl
      | ok primary => rfl

namespace Store

variable {s t : Store}

private theorem outcome_style (edit : StyleEdit) (s : Store) :
    (apply (.style edit)).outcome s = (edit.revised s.style).map fun _ => Reply.done := by
  rw [outcome, style_run]
  cases edit.revised s.style <;> rfl

private theorem outcome_style_steady (edit : StyleEdit) (s t : Store) :
    (apply (.style edit)).outcome s = (apply (.style edit)).outcome t := by
  rw [outcome_style, outcome_style]
  cases edit with
  | background color => cases h : Color.parse color <;> simp [StyleEdit.revised, h, Except.map]
  | text color => cases h : Color.parse color <;> simp [StyleEdit.revised, h, Except.map]
  | primary color => cases h : Color.parse color <;> simp [StyleEdit.revised, h, Except.map]
  | direction direction => rfl
  | all style => rfl

private theorem after_style_error {edit : StyleEdit} {e : Rejection}
    (h : (apply (.style edit)).outcome s = .error e) : (apply (.style edit)).after s = s := by
  rw [outcome_style] at h
  rw [after, style_run]
  cases hr : edit.revised s.style with
  | ok style =>
    rw [hr] at h
    cases h
  | error e => rfl

def restyled (s : Store) (style : Style) (touched : List Collection) : Store :=
  { s with style, styleChanges := notice s.styleChanges touched }

private theorem restyled_restyled (s : Store) (style style' : Style) (c : Collection)
    (touched : List Collection) :
    (s.restyled style [c]).restyled style' touched = s.restyled style' (c :: touched) :=
  rfl

private theorem after_style_ok {edit : StyleEdit} (h : edit.revised s.style = .ok style) :
    (apply (.style edit)).after s = s.restyled style [.style] := by
  rw [after, style_run, h, restyled]

/-- What a list of edits of the style comes to if none of them is refused, and the first that is
refused if one is. -/
private theorem edited_styles (s t : Store) (edits : List StyleEdit) :
    match edits.foldlM StyleEdit.revised s.style with
    | .ok style => (∀ edit ∈ edits, (apply (.style edit)).outcome t = .ok .done) ∧
        s.edited (edits.map .style) = s.restyled style (edits.map fun _ => .style)
    | .error e => ∃ before edit rest, edits = before ++ edit :: rest ∧
        (∀ b ∈ before, (apply (.style b)).outcome t = .ok .done) ∧
        (apply (.style edit)).outcome t = .error e := by
  induction edits generalizing s with
  | nil => exact ⟨List.forall_mem_nil _, rfl⟩
  | cons edit edits ih =>
    have houtcome := outcome_style edit s
    rw [outcome_style_steady edit s t] at houtcome
    rw [List.foldlM_cons]
    cases hr : edit.revised s.style with
    | error e =>
      rw [hr] at houtcome
      exact ⟨[], edit, edits, rfl, List.forall_mem_nil _, houtcome⟩
    | ok style =>
      rw [hr] at houtcome
      have hrest : match edits.foldlM StyleEdit.revised style with | .ok _ => _ | .error e => _ :=
        ih (s.restyled style [.style])
      change match edits.foldlM StyleEdit.revised style with | .ok _ => _ | .error e => _
      cases hfold : edits.foldlM StyleEdit.revised style with
      | ok style' =>
        rw [hfold] at hrest
        obtain ⟨hall, hedited⟩ := hrest
        refine ⟨List.forall_mem_cons.mpr ⟨houtcome, hall⟩, ?_⟩
        rw [List.map_cons, edited_cons, after_style_ok hr, hedited, restyled_restyled, List.map_cons]
      | error e =>
        rw [hfold] at hrest
        obtain ⟨before, refused, rest, rfl, hbefore, hrefused⟩ := hrest
        exact ⟨edit :: before, refused, rest, rfl, List.forall_mem_cons.mpr ⟨houtcome, hbefore⟩,
          hrefused⟩

private theorem style_all_ok (s : Store) {style' : Style} (h : style.validated = .ok style') :
    (∀ edit ∈ style.colorEdits, (apply (.style edit)).outcome s = .ok .done) ∧
      (apply (.style (.all style))).after s = s.edited (style.fieldEdits.map .style) := by
  have hfields := edited_styles s s style.fieldEdits
  rw [← style.validated_eq_foldlM, h] at hfields
  obtain ⟨hall, hedited⟩ := hfields
  have hnotices : notice s.styleChanges (style.fieldEdits.map fun _ => .style) =
      notice s.styleChanges [.style] :=
    (notice_notice s.styleChanges (style.fieldEdits.map fun _ => .style)).symm
  have hrevised : (StyleEdit.all style).revised s.style = .ok style' := h
  refine ⟨fun edit hedit => hall edit (List.mem_append_left _ hedit), ?_⟩
  rw [hedited, after_style_ok hrevised, restyled, restyled, hnotices]

private theorem style_all_error (s : Store) {e : Rejection} (h : style.validated = .error e) :
    ∃ before edit rest, style.colorEdits = before ++ edit :: rest ∧
      (∀ b ∈ before, (apply (.style b)).outcome s = .ok .done) ∧
      (apply (.style edit)).outcome s = .error e := by
  have hcolors := edited_styles s s style.colorEdits
  rw [style.validated_eq_foldlM s.style, Style.fieldEdits, List.foldlM_append] at h
  cases hc : style.colorEdits.foldlM StyleEdit.revised s.style with
  | ok colored =>
    rw [hc] at h
    cases h
  | error e' =>
    rw [hc] at h hcolors
    cases h
    exact hcolors

/-- To set a style as a whole is to set its fields one by one, but all of them or none. -/
private theorem style_all_settled (s : Store) (style : Style) :
    ((apply (.style (.all style))).outcome s = .ok .done ↔
      ∀ edit ∈ style.colorEdits, (apply (.style edit)).outcome s = .ok .done) ∧
    ((apply (.style (.all style))).outcome s = .ok .done →
      (apply (.style (.all style))).after s = s.edited (style.fieldEdits.map .style)) ∧
    ∀ e, (apply (.style (.all style))).outcome s = .error e →
      (∃ before edit rest, style.colorEdits = before ++ edit :: rest ∧
        (∀ b ∈ before, (apply (.style b)).outcome s = .ok .done) ∧
        (apply (.style edit)).outcome s = .error e) ∧
      (apply (.style (.all style))).after s = s := by
  have houtcome : (apply (.style (.all style))).outcome s = style.validated.map fun _ => .done :=
    outcome_style (.all style) s
  cases hv : style.validated with
  | ok style' =>
    rw [hv] at houtcome
    obtain ⟨hcolors, hafter⟩ := style_all_ok s hv
    refine ⟨⟨fun _ => hcolors, fun _ => houtcome⟩, fun _ => hafter, fun e he => ?_⟩
    cases houtcome.symm.trans he
  | error e =>
    rw [hv] at houtcome
    obtain ⟨before, edit, rest, heq, hbefore, hedit⟩ := style_all_error s hv
    refine ⟨⟨fun hok => ?_, fun hall => ?_⟩, fun hok => ?_, fun e' he => ?_⟩
    · cases houtcome.symm.trans hok
    · have hmem : edit ∈ style.colorEdits := by
        rw [heq]
        exact List.mem_append_right _ List.mem_cons_self
      cases hedit.symm.trans (hall edit hmem)
    · cases houtcome.symm.trans hok
    · cases houtcome.symm.trans he
      exact ⟨⟨before, edit, rest, heq, hbefore, hedit⟩, after_style_error houtcome⟩

/-- A store that the operations and documents of a session can make of another. -/
inductive Later (s : Store) : Store → Prop where
  | refl : Later s s
  | operation {t : Store} (h : Later s t) (operation : Operation) : Later s (t.step operation)
  | apply {t : Store} (h : Later s t) (d : Document) : Later s (d.apply t).1

private theorem replay_style_valid {s : Store} (h : s.style.Valid) (steps : List Step) :
    (s.replay steps).1.style.Valid := by
  induction steps generalizing s with
  | nil => exact h
  | cons step steps ih =>
    have hperform := Action.perform_run step.action s
    rw [replay, hperform]
    cases hresolve : step.action.resolve s with
    | error e => exact h
    | ok edit =>
      have hafter : ((Store.apply edit).after s).style.Valid := step_style_valid h (.edit edit)
      rw [after] at hafter
      dsimp only
      cases hrun : (Store.apply edit).run s with
      | ok reply s' =>
        rw [hrun] at hafter
        exact ih hafter
      | error e s' =>
        rw [hrun] at hafter
        exact hafter

private theorem Later.style_valid {s t : Store} (hs : s.style.Valid) (h : s.Later t) :
    t.style.Valid := by
  induction h with
  | refl => exact hs
  | operation h operation ih => exact step_style_valid ih operation
  | apply h d ih =>
    have hreplay := replay_style_valid ih d.steps
    rw [Document.apply]
    rcases hr : Store.replay _ d.steps with ⟨t', e | _⟩
    · rw [hr] at hreplay
      exact hreplay
    · rw [hr] at hreplay
      rw [setKind_style]
      exact hreplay

end Store

private theorem Style.Valid.validated_eq (h : style.Valid) : style.validated = .ok style := by
  rw [validated, h.background, h.text, h.primary]
  rfl

private theorem Style.validated_eq_trim {raw : Style} (h : raw.validated = .ok style) :
    style = { raw with
      background := Text.trim raw.background
      text := Text.trim raw.text
      primary := Text.trim raw.primary } := by
  obtain ⟨background, hbackground, h⟩ := bind_eq_ok.mp h
  obtain ⟨text, htext, h⟩ := bind_eq_ok.mp h
  obtain ⟨primary, hprimary, h⟩ := bind_eq_ok.mp h
  cases h
  rw [(Color.parse_eq_ok.mp hbackground).1, (Color.parse_eq_ok.mp htext).1,
    (Color.parse_eq_ok.mp hprimary).1]

namespace Document

private theorem apply_style {d : Document} {s : Store} (h : (s.replay d.style.steps).2 = .ok ()) :
    (d.apply s).1.style = d.style.completed s.style := by
  have htable := (d.style.replays s).eq_of_ok h
  have hsection : ∀ p ∈ Kind.all.map DocumentPart.diagram, ∀ s t,
      (p.target.put s t).style = s.style := by
    rw [List.forall_mem_map]
    intro kind _ s t
    cases kind <;> rfl
  have hsections := d.replay_leaves Store.style _ hsection
  have htarget := congrArg Prod.fst (d.apply_target .style s)
  rw [steps_eq, DocumentPart.all, List.flatMap_cons, Store.replay_append, partSteps, htable]
    at htarget
  exact htarget.trans (hsections _)

end Document

/-- The ways to set a style agree. To set it as a whole is to set its fields one by one, but all of
them or none. A document puts the fields that it names in place of those of the configuration. Every
color of the store is read as itself ever after. -/
theorem Store.style_ways_agree :
    (∀ (s : Store) (style : Style),
      ((apply (.style (.all style))).outcome s = .ok .done ↔
        ∀ edit ∈ style.colorEdits, (apply (.style edit)).outcome s = .ok .done) ∧
      ((apply (.style (.all style))).outcome s = .ok .done →
        (apply (.style (.all style))).after s = s.edited (style.fieldEdits.map .style)) ∧
      ∀ e, (apply (.style (.all style))).outcome s = .error e →
        (∃ before edit rest, style.colorEdits = before ++ edit :: rest ∧
          (∀ b ∈ before, (apply (.style b)).outcome s = .ok .done) ∧
          (apply (.style edit)).outcome s = .error e) ∧
        (apply (.style (.all style))).after s = s) ∧
    ∀ config style : Style, config.validated = .ok style →
      style = { config with
        background := Text.trim config.background
        text := Text.trim config.text
        primary := Text.trim config.primary } ∧
      (∀ d : Document, (Store.replay { style } d.style.steps).2 = .ok () →
        (d.apply { style }).1.style =
          { background := (d.style.background.map Text.trim).getD style.background
            text := (d.style.text.map Text.trim).getD style.text
            primary := (d.style.primary.map Text.trim).getD style.primary
            direction := d.style.direction.getD style.direction }) ∧
      ∀ t : Store, Later { style } t →
        (∀ color ∈ [t.style.background, t.style.text, t.style.primary],
          Color.parse color = .ok color) ∧
        t.style.validated = .ok t.style := by
  refine ⟨style_all_settled, fun config style h => ⟨Style.validated_eq_trim h, fun d hd => ?_,
    fun t ht => ?_⟩⟩
  · exact Document.apply_style hd
  · have hvalid := ht.style_valid (Style.validated_valid h)
    refine ⟨?_, hvalid.validated_eq⟩
    rw [List.forall_mem_cons, List.forall_mem_cons, List.forall_mem_singleton]
    exact ⟨hvalid.background, hvalid.text, hvalid.primary⟩

/-- A style with two good colors and a bad one, and a configuration with blanks around a color under
a document that names another color and then fails. -/
theorem Store.style_ways_agree_padded :
    let mixed : Style := { background := " red ", text := "#12" }
    let config : Style := { background := "\tNavy " }
    let style : Style := { background := "Navy" }
    let d : Document := { style := { text := some " #333" }, sequence := { actors := ["a", "a"] } }
    ((apply (.style (.all mixed))).outcome {} = .error (.invalidColor "#12") ∧
      (apply (.style (.all mixed))).after {} = {}) ∧
    config.validated = .ok style ∧
    (d.apply { style }).1.style = { background := "Navy", text := "#333" } ∧
    (d.apply { style }).1.style.validated = .ok { background := "Navy", text := "#333" } := by
  intro mixed config style d
  have hrefused : (apply (.style (.all mixed))).outcome {} = .error (.invalidColor "#12") := by
    decide
  have hconfig : config.validated = .ok style := by decide
  have htable : (Store.replay { style } d.style.steps).2 = .ok () := by decide +kernel
  obtain ⟨-, happly, hlater⟩ := style_ways_agree.2 config style hconfig
  refine ⟨⟨hrefused, ((style_ways_agree.1 {} mixed).2.2 _ hrefused).2⟩, hconfig, happly d htable, ?_⟩
  rw [(hlater _ (.apply .refl d)).2, happly d htable]
  rfl

end UmlDiagrams
