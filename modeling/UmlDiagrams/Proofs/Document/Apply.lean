import UmlDiagrams.Proofs.Changes
import UmlDiagrams.Proofs.Document.Sections
import UmlDiagrams.Proofs.Store.Sound
import UmlDiagrams.Proofs.Store.Style
/-!
# Documents on new stores

A document can be applied to a new store exactly if its sections are in order, and then the store
lists what the document asks for.
-/

namespace UmlDiagrams

open Stateful UmlDiagrams.Graph

variable {α : Type}

/-- Good values, and no others, are put into the style. -/
def StyleEdit.Puts (edit : α → StyleEdit) (Good : α → Prop) (put : Style → α → Style) : Prop :=
  ∀ style v style', (edit v).revised style = .ok style' ↔ Good v ∧ style' = put style v

private theorem color_puts {edit : String → StyleEdit} (put : Style → String → Style)
    (hedit : ∀ style v, (edit v).revised style = Color.parse v >>= fun c => pure (put style c)) :
    StyleEdit.Puts edit (fun v => Color.isColor (Text.trim v))
      fun style v => put style (Text.trim v) := by
  intro style v style'
  rw [hedit, bind_eq_ok]
  constructor
  · intro h
    obtain ⟨c, hc, h⟩ := h
    obtain ⟨rfl, hcolor⟩ := Color.parse_eq_ok.mp hc
    cases h
    exact ⟨hcolor, rfl⟩
  · intro h
    obtain ⟨hcolor, rfl⟩ := h
    exact ⟨Text.trim v, Color.parse_eq_ok.mpr ⟨rfl, hcolor⟩, rfl⟩

/-- The notices given by steps that each set a field of the style. -/
def styleNotices (steps : List Step) : List Collection :=
  steps.map fun _ => .style

private theorem fieldSteps_replay {edit : α → StyleEdit} {Good : α → Prop} {put : Style → α → Style}
    (hedit : StyleEdit.Puts edit Good put) (name : String) (value : Option α) (s : Store) :
    s.Replays (fieldSteps name edit value) (∀ v, value = some v → Good v)
      (· = { s with
        style := value.elim s.style (put s.style)
        styleChanges := notice s.styleChanges (styleNotices (fieldSteps name edit value)) })
      fun _ => True := by
  cases value with
  | none => exact Store.replays_nil (by simp) rfl
  | some v =>
    have hperform := Action.perform_run (.edit (.style (edit v))) s
    have hresolve : (Action.edit (.style (edit v))).resolve s = .ok (.style (edit v)) := rfl
    have hrun := Store.style_run (edit v) s
    have hsteps : fieldSteps name edit (some v) = [⟨.style name, .edit (.style (edit v))⟩] := rfl
    rw [hresolve] at hperform
    rw [Store.Replays, hsteps, Store.replay, hperform]
    dsimp only
    cases h : (edit v).revised s.style with
    | ok style =>
      obtain ⟨hgood, rfl⟩ := (hedit s.style v style).mp h
      rw [h] at hrun
      rw [hrun]
      exact ⟨fun w hw => Option.some.inj hw ▸ hgood, rfl⟩
    | error e =>
      rw [h] at hrun
      rw [hrun]
      refine ⟨fun hall => ?_, trivial⟩
      have hok := (hedit s.style v _).mpr ⟨hall v rfl, rfl⟩
      rw [h] at hok
      cases hok

theorem StyleOverrides.replays (o : StyleOverrides) (s : Store) :
    s.Replays o.steps o.Fits
      (· = { s with
        style := o.completed s.style
        styleChanges := notice s.styleChanges (styleNotices o.steps) })
      fun _ => True := by
  have hbackground : StyleEdit.Puts .background (fun v => Color.isColor (Text.trim v))
      fun style v => { style with background := Text.trim v } :=
    color_puts (fun style c => { style with background := c }) fun _ _ => rfl
  have htext : StyleEdit.Puts .text (fun v => Color.isColor (Text.trim v))
      fun style v => { style with text := Text.trim v } :=
    color_puts (fun style c => { style with text := c }) fun _ _ => rfl
  have hprimary : StyleEdit.Puts .primary (fun v => Color.isColor (Text.trim v))
      fun style v => { style with primary := Text.trim v } :=
    color_puts (fun style c => { style with primary := c }) fun _ _ => rfl
  have hdirection : StyleEdit.Puts .direction (fun _ => True)
      fun style v => { style with direction := v } := by
    intro style v style'
    constructor
    · intro h
      cases h
      exact ⟨trivial, rfl⟩
    · intro h
      rw [h.2]
      rfl
  have hall : s.Replays o.steps
      ((∀ c, o.background = some c → Color.isColor (Text.trim c)) ∧
        (∀ c, o.text = some c → Color.isColor (Text.trim c)) ∧
        (∀ c, o.primary = some c → Color.isColor (Text.trim c)) ∧
        ∀ v, o.direction = some v → True)
      (· = { s with
        style := o.completed s.style
        styleChanges := notice s.styleChanges (styleNotices o.steps) })
      fun _ => True := by
    rw [StyleOverrides.steps, List.append_assoc, List.append_assoc]
    refine (fieldSteps_replay hbackground _ o.background s).append fun _ _ h => ?_
    subst h
    refine (fieldSteps_replay htext _ o.text _).append fun _ _ h => ?_
    subst h
    refine (fieldSteps_replay hprimary _ o.primary _).append fun _ _ h => ?_
    subst h
    refine (fieldSteps_replay hdirection _ o.direction _).imp Iff.rfl (fun _ _ h => ?_)
      fun _ _ h => h
    subst h
    have hbackground (style : Style) (value : Option String) :
        value.elim style (fun v => { style with background := Text.trim v }) =
          { style with background := (value.map Text.trim).getD style.background } := by
      cases value <;> rfl
    have htext (style : Style) (value : Option String) :
        value.elim style (fun v => { style with text := Text.trim v }) =
          { style with text := (value.map Text.trim).getD style.text } := by
      cases value <;> rfl
    have hprimary (style : Style) (value : Option String) :
        value.elim style (fun v => { style with primary := Text.trim v }) =
          { style with primary := (value.map Text.trim).getD style.primary } := by
      cases value <;> rfl
    have hdirection (style : Style) (value : Option Direction) :
        value.elim style (fun v => { style with direction := v }) =
          { style with direction := value.getD style.direction } := by
      cases value <;> rfl
    simp only [hbackground, htext, hprimary, hdirection, StyleOverrides.completed, styleNotices,
      List.map_append, notice_append]
  refine hall.imp ?_ (fun _ _ h => h) fun _ _ h => h
  constructor
  · intro h
    exact ⟨h.1, h.2.1, h.2.2.1⟩
  · intro h
    exact ⟨h.background, h.text, h.primary, fun _ _ => trivial⟩

namespace Document

/-- The rejection of a document in which a section has edges and too few nodes. -/
inductive Lacks (d : Document) (e : Rejection) : Prop
  | sequence (h : LacksNodes .actors d.sequence.names d.sequence.messages e)
  | classes (h : LacksNodes .classes d.classes.names d.classes.relationships e)
  | useCase (hlinks : d.useCase.links ≠ [])
      (h : UseCaseDiagram.LacksEnd d.useCase.actorNames d.useCase.useCaseNames e)
  | entity (h : LacksNodes .entities d.entity.names d.entity.relationships e)
  | activity (h : LacksNodes .activities d.activity.names d.activity.edges e)
  | component (h : LacksNodes .components d.component.names d.component.edges e)
  | state (h : LacksNodes .states d.state.names d.state.transitions e)

variable {d : Document}

private theorem fits_and_enoughNodes_iff : d.Fits ∧ d.EnoughNodes ↔
    d.style.Fits ∧
    (SequenceDiagram.rules.Fits d.sequence.names (d.sequence.messages.map (·.edge)) ∧
      UmlDiagrams.EnoughNodes d.sequence.names d.sequence.messages) ∧
    ((ClassDiagram.rules.Fits d.classes.names (d.classes.relationships.map (·.edge)) ∧
        ∀ spec ∈ d.classes.classes, spec.MembersNamed) ∧
      UmlDiagrams.EnoughNodes d.classes.names d.classes.relationships) ∧
    (d.useCase.Fits ∧ d.useCase.EnoughNodes) ∧
    ((EntityDiagram.rules.Fits d.entity.names (d.entity.relationships.map (·.edge)) ∧
        ∀ spec ∈ d.entity.entities, spec.MembersNamed) ∧
      UmlDiagrams.EnoughNodes d.entity.names d.entity.relationships) ∧
    (FlowDiagram.activityRules.Fits d.activity.names (d.activity.edges.map (·.edge)) ∧
      UmlDiagrams.EnoughNodes d.activity.names d.activity.edges) ∧
    (FlowDiagram.componentRules.Fits d.component.names (d.component.edges.map (·.edge)) ∧
      UmlDiagrams.EnoughNodes d.component.names d.component.edges) ∧
    (StateDiagram.rules.Fits d.state.names (d.state.transitions.map (·.edge)) ∧
      UmlDiagrams.EnoughNodes d.state.names d.state.transitions) := by
  constructor
  · intro h
    obtain ⟨hfits, henough⟩ := h
    exact ⟨hfits.style, ⟨hfits.sequence, henough.sequence⟩,
      ⟨⟨hfits.classes, hfits.classMembers⟩, henough.classes⟩, ⟨hfits.useCase, henough.useCase⟩,
      ⟨⟨hfits.entity, hfits.entityMembers⟩, henough.entity⟩, ⟨hfits.activity, henough.activity⟩,
      ⟨hfits.component, henough.component⟩, ⟨hfits.state, henough.state⟩⟩
  · intro h
    obtain ⟨hstyle, ⟨hseq, hseq'⟩, ⟨⟨hcls, hmembers⟩, hcls'⟩, ⟨huse, huse'⟩,
      ⟨⟨hent, hattributes⟩, hent'⟩, ⟨hact, hact'⟩, ⟨hcomp, hcomp'⟩, hstate, hstate'⟩ := h
    exact ⟨⟨hstyle, hseq, hcls, hmembers, huse, hent, hattributes, hact, hcomp, hstate⟩,
      ⟨hseq', hcls', huse', hent', hact', hcomp', hstate'⟩⟩

private theorem document_eq {s : Store} {style : Style} (hstyle : s.style = d.style.completed style)
    (hsequence : s.sequence.listed = d.sequence.completed)
    (hclasses : s.classes.listed = d.classes.completed)
    (huseCase : s.useCase.listed = d.useCase.completed)
    (hentity : s.entity.listed = d.entity.completed)
    (hactivity : s.activity.listed = d.activity.completed)
    (hcomponent : s.component.listed = d.component.completed)
    (hstate : s.state.listed = d.state.completed) :
    { s.document with kind := d.kind } = d.completed style := by
  rw [Store.document, Document.completed, hstyle, hsequence, hclasses, huseCase, hentity,
    hactivity, hcomponent, hstate]

private theorem steps_replay (d : Document) (style : Style) :
    Store.Replays { style } d.steps (d.Fits ∧ d.EnoughNodes)
      (fun s => s.Sound ∧ { s.document with kind := d.kind } = d.completed style)
      fun e => d.Fits → d.Lacks e := by
  suffices hall : Store.Replays { style } d.steps _
      (fun s => s.Sound ∧ { s.document with kind := d.kind } = d.completed style)
      fun e => d.Fits → d.Lacks e from
    hall.imp fits_and_enoughNodes_iff.symm (fun _ _ h => h) fun _ _ h => h
  simp only [Document.steps, List.append_assoc]
  refine ((d.style.replays _).imp Iff.rfl (fun _ _ h => h) fun _ hc _ hfits => ?_).append
    fun _ _ h => ?_
  · exact absurd hfits.style hc
  subst h
  refine ((d.sequence.replays rfl).imp Iff.rfl (fun _ _ h => h) fun _ _ h hfits => ?_).append
    fun _ _ h => ?_
  · exact .sequence (h hfits.sequence)
  obtain ⟨sequence, ⟨hsequence, hsequenceListed⟩, rfl⟩ := h
  refine ((d.classes.replays rfl).imp Iff.rfl (fun _ _ h => h) fun _ _ h hfits => ?_).append
    fun _ _ h => ?_
  · exact .classes (h hfits.classes hfits.classMembers)
  obtain ⟨classes, ⟨hclasses, hclassesListed⟩, rfl⟩ := h
  refine ((d.useCase.replays rfl).imp Iff.rfl (fun _ _ h => h) fun _ _ h hfits => ?_).append
    fun _ _ h => ?_
  · exact .useCase (h hfits.useCase).1 (h hfits.useCase).2
  obtain ⟨useCase, ⟨huseCase, huseCaseListed⟩, rfl⟩ := h
  refine ((d.entity.replays rfl).imp Iff.rfl (fun _ _ h => h) fun _ _ h hfits => ?_).append
    fun _ _ h => ?_
  · exact .entity (h hfits.entity hfits.entityMembers)
  obtain ⟨entity, ⟨hentity, hentityListed⟩, rfl⟩ := h
  refine ((FlowSection.replays (L := Part.activity) rfl (fun _ => rfl) _ _ d.activity).imp Iff.rfl
    (fun _ _ h => h) fun _ _ h hfits => ?_).append fun _ _ h => ?_
  · exact .activity (h hfits.activity)
  obtain ⟨activity, ⟨hactivity, hactivityListed⟩, rfl⟩ := h
  refine ((FlowSection.replays (L := Part.component) rfl (fun _ => rfl) _ _ d.component).imp
    Iff.rfl (fun _ _ h => h) fun _ _ h hfits => ?_).append fun _ _ h => ?_
  · exact .component (h hfits.component)
  obtain ⟨component, ⟨hcomponent, hcomponentListed⟩, rfl⟩ := h
  refine (d.state.replays rfl).imp Iff.rfl (fun _ _ h => ?_) fun _ _ h hfits => ?_
  · obtain ⟨state, ⟨hstate, hstateListed⟩, rfl⟩ := h
    refine ⟨⟨hsequence, hclasses, huseCase, hentity, hactivity, hcomponent, hstate⟩, ?_⟩
    exact document_eq rfl hsequenceListed hclassesListed huseCaseListed hentityListed
      hactivityListed hcomponentListed hstateListed
  · exact .state (h hfits.state)

private theorem setKind_document (s : Store) (kind : Kind) :
    (s.setKind kind).document = { s.document with kind } := by
  rw [Store.setKind]
  by_cases h : s.kind = kind
  · rw [if_pos h, ← h]
    rfl
  · rw [if_neg h]
    rfl

variable {s : Store} {style : Style}

theorem of_apply_ok (h : d.apply { style } = (s, .ok ())) :
    (d.Fits ∧ d.EnoughNodes) ∧ s.Sound ∧ s.document = d.completed style := by
  have hreplay := steps_replay d style
  rw [Store.Replays] at hreplay
  rw [apply] at h
  rcases hr : Store.replay { style } d.steps with ⟨t, ⟨e⟩ | ⟨⟩⟩
  · rw [hr] at h
    cases h
  · rw [hr] at h hreplay
    cases h
    obtain ⟨hc, hsound, hdocument⟩ := hreplay
    exact ⟨hc, Store.setKind_sound hsound d.kind, (setKind_document t d.kind).trans hdocument⟩

theorem of_apply_error {e : ReplayError} (h : d.apply { style } = (s, .error e)) :
    ¬ (d.Fits ∧ d.EnoughNodes) ∧ (d.Fits → d.Lacks e.reason) := by
  have hreplay := steps_replay d style
  rw [Store.Replays] at hreplay
  rw [apply] at h
  rcases hr : Store.replay { style } d.steps with ⟨t, ⟨e⟩ | ⟨⟩⟩
  · rw [hr] at h hreplay
    cases h
    exact hreplay
  · rw [hr] at h
    cases h

/-- A document can be applied to a new store exactly if nothing in it is wrong. The store then lists
the document: names and colors trimmed, open ends closed, and the style kept where the document does
not name it. -/
theorem apply_ok_iff (d : Document) (style : Style) :
    ((d.apply { style }).2 = .ok () ↔ d.Fits ∧ d.EnoughNodes) ∧
      (d.Fits ∧ d.EnoughNodes →
        (d.apply { style }).1.Sound ∧ (d.apply { style }).1.document = d.completed style) := by
  rcases h : d.apply { style } with ⟨s, ⟨e⟩ | ⟨⟩⟩
  · have hrejected := (of_apply_error h).1
    refine ⟨⟨fun hok => ?_, fun hc => absurd hc hrejected⟩, fun hc => absurd hc hrejected⟩
    cases hok
  · obtain ⟨hc, hholds⟩ := of_apply_ok h
    exact ⟨⟨fun _ => hc, fun _ => rfl⟩, fun _ => hholds⟩

/-- Blanks around names go, and a relationship without ends joins the first two classes. -/
theorem apply_ok_trimmed :
    let document : Document := {
      kind := .classes
      style := { background := some " #fff " }
      classes := {
        classes := [{ name := " A " }, { name := "B", attributes := [{ name := " x " }] }]
        relationships := [⟨none, none, .inheritance, "is"⟩] } }
    let listed : Document := {
      kind := .classes
      style := ⟨some "#fff", some "#000000", some "#1E88E5", some .vertical⟩
      classes := {
        classes := [{ name := "A" }, { name := "B", attributes := [{ name := "x" }] }]
        relationships := [⟨some "A", some "B", .inheritance, "is"⟩] } }
    (document.apply {}).2 = .ok () ∧ (document.apply {}).1.document = listed := by
  intro document listed
  obtain ⟨hcriterion, hlists⟩ := apply_ok_iff document {}
  have hok : (document.apply {}).2 = .ok () := by decide +kernel
  have hlisted : document.completed {} = listed := by decide +kernel
  exact ⟨hok, (hlists (hcriterion.mp hok)).2.trans hlisted⟩

end Document

end UmlDiagrams
