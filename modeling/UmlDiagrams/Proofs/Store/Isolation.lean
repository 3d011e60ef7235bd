import UmlDiagrams.Proofs.Store.Style
import UmlDiagrams.Source
/-!
# Diagrams do not influence each other

An edit works on one diagram, on the style, or on neither; a clearing works on the diagram that is
active at that time. What a run makes of a diagram is therefore decided by the edits addressed to
it, in their order, whatever stands between them.
-/

namespace UmlDiagrams

open Stateful

abbrev Kind.Diagram : Kind → Type
  | sequence => SequenceDiagram
  | classes => ClassDiagram
  | useCase => UseCaseDiagram
  | entity => EntityDiagram
  | activity => FlowDiagram
  | component => FlowDiagram
  | state => StateDiagram

namespace Edit

/-- The kind of the diagram that an edit works on while `active` is active. -/
def address (active : Kind) : Edit → Option Kind
  | sequence _ => some .sequence
  | classes _ => some .classes
  | useCase _ => some .useCase
  | entity _ => some .entity
  | activity _ => some .activity
  | component _ => some .component
  | state _ => some .state
  | style _ => none
  | setKind _ => none
  | clear => some active

def activeAfter (active : Kind) : Edit → Kind
  | setKind kind => kind
  | _ => active

end Edit

/-- The edits of a run that are addressed to the diagram of one kind, if the run starts while
`active` is active. -/
def addressed (kind active : Kind) : List Edit → List Edit
  | [] => []
  | edit :: edits =>
    if edit.address active = some kind then
      edit :: addressed kind (edit.activeAfter active) edits
    else addressed kind (edit.activeAfter active) edits

namespace Store

def diagram (s : Store) : (kind : Kind) → kind.Diagram
  | .sequence => s.sequence
  | .classes => s.classes
  | .useCase => s.useCase
  | .entity => s.entity
  | .activity => s.activity
  | .component => s.component
  | .state => s.state

/-- The store after some edits, accepted or not. -/
def edited (s : Store) (edits : List Edit) : Store :=
  s.run (edits.map .edit)

@[simp] theorem edited_nil (s : Store) : s.edited [] = s := rfl

@[simp] theorem edited_cons (s : Store) (edit : Edit) (edits : List Edit) :
    s.edited (edit :: edits) = ((apply edit).after s).edited edits := rfl

variable {s t : Store} {kind : Kind} {edit : Edit}

theorem setKind_diagram (target : Kind) : (s.setKind target).diagram kind = s.diagram kind := by
  rw [setKind]
  by_cases h : s.kind = target
  · rw [if_pos h]
  · rw [if_neg h]
    cases kind <;> rfl

theorem setKind_kind : (s.setKind kind).kind = kind := by
  rw [setKind]
  by_cases h : s.kind = kind
  · rw [if_pos h, h]
  · rw [if_neg h]

theorem clear_kind : s.clear.kind = s.kind := by
  rw [clear]
  cases s.kind <;> rfl

private theorem after_style_leaves (styleEdit : StyleEdit) (s : Store) :
    ((apply (.style styleEdit)).after s).kind = s.kind ∧
      ∀ kind, ((apply (.style styleEdit)).after s).diagram kind = s.diagram kind := by
  rw [after, style_run]
  cases styleEdit.revised s.style with
  | ok style => exact ⟨rfl, fun kind => by cases kind <;> rfl⟩
  | error e => exact ⟨rfl, fun _ => rfl⟩

theorem after_kind (edit : Edit) (s : Store) :
    ((apply edit).after s).kind = edit.activeAfter s.kind := by
  cases edit with
  | style styleEdit => exact (after_style_leaves styleEdit s).1
  | setKind target => exact setKind_kind
  | clear => exact clear_kind
  | _ =>
    rw [apply, after_within]
    rfl

theorem clear_diagram_of_ne (h : s.kind ≠ kind) : s.clear.diagram kind = s.diagram kind := by
  rw [clear]
  cases hs : s.kind <;> cases kind <;> first | exact absurd hs h | rfl

/-- An edit that is not addressed to a diagram leaves it as it is. -/
theorem after_diagram_of_ne (h : edit.address s.kind ≠ some kind) :
    ((apply edit).after s).diagram kind = s.diagram kind := by
  cases edit with
  | style styleEdit => exact (after_style_leaves styleEdit s).2 kind
  | setKind target => exact setKind_diagram target
  | clear => exact clear_diagram_of_ne fun hs => h (congrArg some hs)
  | _ =>
    rw [apply, after_within]
    cases kind <;> first | exact absurd rfl h | rfl

/-- What an edit makes of the diagram that it is addressed to depends on nothing else. -/
private theorem after_diagram_congr (hdiagram : s.diagram kind = t.diagram kind)
    (hs : edit.address s.kind = some kind) (ht : edit.address t.kind = some kind) :
    ((apply edit).after s).diagram kind = ((apply edit).after t).diagram kind := by
  cases edit with
  | style styleEdit => cases hs
  | setKind target => cases hs
  | clear =>
    have hs : s.kind = kind := Option.some.inj hs
    have ht : t.kind = kind := Option.some.inj ht
    change s.clear.diagram kind = t.clear.diagram kind
    rw [clear, clear, hs, ht]
    cases kind <;> simp only [diagram] at hdiagram ⊢ <;> rw [hdiagram]
  | _ =>
    cases Option.some.inj hs
    simp only [apply, after_within, diagram] at hdiagram ⊢
    rw [hdiagram]

/-- Two runs on stores with the same diagram of a kind leave the same diagram of that kind, if the
second performs only what the first addresses to it. In the second run the kind stays active, so
that its clearings are meant for this diagram. -/
theorem edited_diagram (edits : List Edit) (hdiagram : s.diagram kind = t.diagram kind)
    (ht : t.kind = kind) :
    (s.edited edits).diagram kind = (t.edited (addressed kind s.kind edits)).diagram kind := by
  -- The first run may change the active kind on its way, the second stays at `kind`.
  induction edits generalizing s t with
  | nil => exact hdiagram
  | cons edit edits ih =>
    rw [edited_cons, addressed]
    by_cases h : edit.address s.kind = some kind
    · have hat : edit.address t.kind = some kind := by
        cases edit <;> first | exact h | exact congrArg some ht
      have hactive : ((apply edit).after t).kind = kind := by
        rw [after_kind]
        cases edit <;> first | exact ht | cases h
      rw [if_pos h, edited_cons, ← after_kind]
      exact ih (after_diagram_congr hdiagram h hat) hactive
    · rw [if_neg h, ← after_kind]
      exact ih ((after_diagram_of_ne h).trans hdiagram) ht

/-- The style and its notices are what the edits of the style make of them. -/
theorem edited_style (edits : List Edit) (hstyle : s.style = t.style)
    (hchanges : s.styleChanges = t.styleChanges) :
    (s.edited edits).style = (t.edited (edits.filter Edit.isStyle)).style ∧
      (s.edited edits).styleChanges = (t.edited (edits.filter Edit.isStyle)).styleChanges := by
  induction edits generalizing s t with
  | nil => exact ⟨hstyle, hchanges⟩
  | cons edit edits ih =>
    rw [edited_cons, List.filter_cons]
    cases h : edit.isStyle with
    | true =>
      obtain ⟨hstyle, hchanges⟩ := after_style_congr h hstyle hchanges
      exact ih hstyle hchanges
    | false =>
      obtain ⟨hkeeps, hkeepsChanges⟩ := after_style_of_not_isStyle (s := s) h
      exact ih (hkeeps.trans hstyle) (hkeepsChanges.trans hchanges)

theorem body_congr (hdiagram : s.diagram kind = t.diagram kind) (hstyle : s.style = t.style) :
    s.body kind = t.body kind := by
  cases kind <;> simp only [diagram] at hdiagram <;> simp only [body, hdiagram, hstyle]

theorem source_congr (hdiagram : s.diagram kind = t.diagram kind) (hstyle : s.style = t.style) :
    (s.setKind kind).source = (t.setKind kind).source := by
  have hbody : (s.setKind kind).body kind = (t.setKind kind).body kind := by
    apply body_congr
    · rw [setKind_diagram, setKind_diagram, hdiagram]
    · rw [setKind_style, setKind_style, hstyle]
  simp only [source, sourceLines, setKind_kind, setKind_style, hbody, hstyle]

theorem pendingChanges_congr (hdiagrams : ∀ kind, s.diagram kind = t.diagram kind)
    (hchanges : s.styleChanges = t.styleChanges) : s.pendingChanges = t.pendingChanges := by
  have hsequence : s.sequence = t.sequence := hdiagrams .sequence
  have hclasses : s.classes = t.classes := hdiagrams .classes
  have huseCase : s.useCase = t.useCase := hdiagrams .useCase
  have hentity : s.entity = t.entity := hdiagrams .entity
  have hactivity : s.activity = t.activity := hdiagrams .activity
  have hcomponent : s.component = t.component := hdiagrams .component
  have hstate : s.state = t.state := hdiagrams .state
  rw [pendingChanges, pendingChanges, hchanges, hsequence, hclasses, huseCase, hentity, hactivity,
    hcomponent, hstate]

/-- Whatever is tried on a store, each diagram, its identifiers and notices included, comes out as if
only the edits addressed to it had been tried, and the style as if only the edits of the style had.
Two runs that differ in nothing but the interleaving are not told apart by any diagram, by the
change notices or by the source of any kind, and a run that addresses nothing to a diagram and does
not edit the style leaves the source of that diagram alone. -/
theorem edits_isolated (s : Store) (edits : List Edit) :
    (∀ kind, (s.edited edits).diagram kind =
      ((s.setKind kind).edited (addressed kind s.kind edits)).diagram kind) ∧
    (s.edited edits).style = (s.edited (edits.filter Edit.isStyle)).style ∧
    (∀ others : List Edit,
      (∀ kind, addressed kind s.kind others = addressed kind s.kind edits) →
      others.filter Edit.isStyle = edits.filter Edit.isStyle →
        (∀ kind, (s.edited others).diagram kind = (s.edited edits).diagram kind) ∧
        (s.edited others).style = (s.edited edits).style ∧
        (s.edited others).takeChanges.1 = (s.edited edits).takeChanges.1 ∧
        ∀ kind, ((s.edited others).setKind kind).source = ((s.edited edits).setKind kind).source) ∧
    ∀ kind, addressed kind s.kind edits = [] → edits.filter Edit.isStyle = [] →
      (s.edited edits).diagram kind = s.diagram kind ∧
        ((s.edited edits).setKind kind).source = (s.setKind kind).source := by
  have hdiagram (edits : List Edit) (kind : Kind) : (s.edited edits).diagram kind =
      ((s.setKind kind).edited (addressed kind s.kind edits)).diagram kind :=
    edited_diagram edits (setKind_diagram kind).symm setKind_kind
  have hstyle (edits : List Edit) := edited_style edits (rfl : s.style = s.style) rfl
  refine ⟨hdiagram edits, (hstyle edits).1, ?_, ?_⟩
  · intro others haddressed hfilter
    have hsame : ∀ kind, (s.edited others).diagram kind = (s.edited edits).diagram kind := by
      intro kind
      rw [hdiagram others, hdiagram edits, haddressed]
    have hlook : (s.edited others).style = (s.edited edits).style := by
      rw [(hstyle others).1, (hstyle edits).1, hfilter]
    have hnotices : (s.edited others).styleChanges = (s.edited edits).styleChanges := by
      rw [(hstyle others).2, (hstyle edits).2, hfilter]
    exact ⟨hsame, hlook, pendingChanges_congr hsame hnotices,
      fun kind => source_congr (hsame kind) hlook⟩
  · intro kind haddressed hfilter
    have hsame : (s.edited edits).diagram kind = s.diagram kind := by
      rw [hdiagram edits, haddressed, edited_nil, setKind_diagram]
    have hlook : (s.edited edits).style = s.style := by
      rw [(hstyle edits).1, hfilter, edited_nil]
    exact ⟨hsame, source_congr hsame hlook⟩

/-- An actor may be added before or after a class was added and cleared away: every source is the
same, and that of the state diagram is the one of a new store. -/
theorem edits_isolated_swapped :
    let before : List Edit := [.sequence (.addActor "A"), .setKind .classes,
      .classes (.addClass "C" false), .clear, .setKind .sequence]
    let after : List Edit := [.setKind .classes, .classes (.addClass "C" false), .clear,
      .setKind .sequence, .sequence (.addActor "A")]
    (∀ kind, addressed kind .sequence after = addressed kind .sequence before) ∧
      (∀ kind, ((edited {} after).setKind kind).source =
        ((edited {} before).setKind kind).source) ∧
      addressed .state .sequence before = [] ∧
      ((edited {} before).setKind .state).source = (setKind {} .state).source := by
  intro before after
  have haddressed : ∀ kind, addressed kind .sequence after = addressed kind .sequence before := by
    intro kind
    cases kind <;> rfl
  obtain ⟨-, -, hinterleaved, hothers⟩ := edits_isolated {} before
  exact ⟨haddressed, (hinterleaved after haddressed rfl).2.2.2, rfl, (hothers .state rfl rfl).2⟩

end Store

end UmlDiagrams
