import UmlDiagrams.Proofs.Document.Sections
import UmlDiagrams.Proofs.Simulation
import UmlDiagrams.Proofs.Store.Isolation
/-!
# The parts of a document

A document consists of a style table and a section for each kind of diagram. Each part works on the
style or on one diagram and neither reads nor writes anything else, so the parts can be applied one
by one.
-/

namespace UmlDiagrams

open Stateful

variable {τ α : Type} {L : Part τ} {steps more : List Step} {s t : Store}

/-- The steps read and write nothing but a part of the store. -/
def Confined (L : Part τ) (steps : List Step) : Prop :=
  ∃ f : τ → τ × Except ReplayError Unit,
    ∀ s : Store, s.replay steps = (L.put s (f (L.part s)).1, (f (L.part s)).2)

private theorem confined_nil : Confined L [] :=
  ⟨fun t => (t, .ok ()), fun s => by rw [Store.replay, L.put_part]⟩

private theorem confined_singleton {step : Step} {x : Editing τ α} (h : Step.Performs L step x) :
    Confined L [step] := by
  refine ⟨fun t => (x.after t, outcomeImage (⟨step.place, ·⟩) (fun _ => ()) (x.outcome t)),
    fun s => ?_⟩
  rw [Store.replay, h s]
  dsimp only
  rw [after, outcome]
  cases x.run (L.part s) <;> rfl

private theorem Confined.append (hsteps : Confined L steps) (hmore : Confined L more) :
    Confined L (steps ++ more) := by
  obtain ⟨f, hf⟩ := hsteps
  obtain ⟨g, hg⟩ := hmore
  refine ⟨fun t =>
    match f t with
    | (t', .ok ()) => g t'
    | (t', .error e) => (t', .error e), fun s => ?_⟩
  rw [Store.replay_append, hf]
  dsimp only
  rcases f (L.part s) with ⟨t, e | _⟩
  · rfl
  · dsimp only
    rw [hg, L.part_put, L.put_put]

private theorem confined_of_performs {xs : List (Editing τ α)}
    (h : List.Forall₂ (Step.Performs L) steps xs) : Confined L steps := by
  induction h with
  | nil => exact confined_nil
  | cons hstep _ ih => exact (confined_singleton hstep).append ih

private theorem Confined.congr (h : Confined L steps) (hpart : L.part s = L.part t) :
    L.part (s.replay steps).1 = L.part (t.replay steps).1 ∧
      (s.replay steps).2 = (t.replay steps).2 := by
  obtain ⟨f, hf⟩ := h
  rw [hf, hf, hpart, L.part_put, L.part_put]
  exact ⟨rfl, rfl⟩

private theorem Confined.leaves {υ : Type} {view : Store → υ} (h : Confined L steps)
    (hview : ∀ s t, view (L.put s t) = view s) (s : Store) : view (s.replay steps).1 = view s := by
  obtain ⟨f, hf⟩ := h
  rw [hf, hview]

namespace Part

def style : Part (Style × List Collection) where
  part s := (s.style, s.styleChanges)
  put s look := { s with style := look.1, styleChanges := look.2 }
  part_put _ _ := rfl
  put_part _ := rfl
  put_put _ _ _ := rfl

def diagram : (kind : Kind) → Part kind.Diagram
  | .sequence => sequence
  | .classes => classes
  | .useCase => useCase
  | .entity => entity
  | .activity => activity
  | .component => component
  | .state => state

private theorem diagram_part (kind : Kind) (s : Store) :
    (diagram kind).part s = s.diagram kind := by
  cases kind <;> rfl

end Part

/-- A part of a document: the style table, or the section for a kind of diagram. -/
inductive DocumentPart where
  | style
  | diagram (kind : Kind)
deriving DecidableEq, Repr

namespace DocumentPart

/-- The parts in the order in which a document applies them. -/
def all : List DocumentPart :=
  style :: Kind.all.map diagram

private theorem mem_all (p : DocumentPart) : p ∈ all := by
  cases p with
  | style => decide
  | diagram kind => cases kind <;> decide

abbrev Target : DocumentPart → Type
  | style => Style × List Collection
  | diagram kind => kind.Diagram

def target : (p : DocumentPart) → Part p.Target
  | style => Part.style
  | diagram kind => Part.diagram kind

private theorem target_put_of_ne {p q : DocumentPart} (h : p ≠ q) (s : Store) (t : p.Target) :
    q.target.part (p.target.put s t) = q.target.part s := by
  rcases p with _ | p <;> rcases q with _ | q
  · exact absurd rfl h
  · cases q <;> rfl
  · cases p <;> rfl
  · cases p <;> cases q <;> first | rfl | exact absurd rfl h

theorem target_put_active (p : DocumentPart) (s : Store) (t : p.Target) :
    ((p.target.put s t).kind, (p.target.put s t).epoch) = (s.kind, s.epoch) := by
  rcases p with _ | p
  · rfl
  · cases p <;> rfl

private theorem target_setKind (p : DocumentPart) (kind : Kind) (s : Store) :
    p.target.part (s.setKind kind) = p.target.part s := by
  rw [Store.setKind]
  by_cases h : s.kind = kind
  · rw [if_pos h]
  · rw [if_neg h]
    rcases p with _ | p
    · rfl
    · cases p <;> rfl

end DocumentPart

abbrev Kind.Section : Kind → Type
  | sequence => SequenceSection
  | classes => ClassSection
  | useCase => UseCaseSection
  | entity => EntitySection
  | activity => FlowSection
  | component => FlowSection
  | state => StateSection

def Kind.sectionSteps : (kind : Kind) → kind.Section → List Step
  | sequence, c => c.steps
  | classes, c => c.steps
  | useCase, c => c.steps
  | entity, c => c.steps
  | activity, c => c.steps "activity" "activity flow" .activity
  | component, c => c.steps "component" "component dependency" .component
  | state, c => c.steps

namespace Document

variable (d : Document)

def sectionOf : (kind : Kind) → kind.Section
  | .sequence => d.sequence
  | .classes => d.classes
  | .useCase => d.useCase
  | .entity => d.entity
  | .activity => d.activity
  | .component => d.component
  | .state => d.state

def only : DocumentPart → Document
  | .style => { kind := d.kind, style := d.style }
  | .diagram .sequence => { kind := d.kind, sequence := d.sequence }
  | .diagram .classes => { kind := d.kind, classes := d.classes }
  | .diagram .useCase => { kind := d.kind, useCase := d.useCase }
  | .diagram .entity => { kind := d.kind, entity := d.entity }
  | .diagram .activity => { kind := d.kind, activity := d.activity }
  | .diagram .component => { kind := d.kind, component := d.component }
  | .diagram .state => { kind := d.kind, state := d.state }

def partSteps : DocumentPart → List Step
  | .style => d.style.steps
  | .diagram kind => kind.sectionSteps (d.sectionOf kind)

theorem steps_eq : d.steps = DocumentPart.all.flatMap d.partSteps := by
  simp [steps, DocumentPart.all, Kind.all, partSteps, Kind.sectionSteps, sectionOf]

theorem only_steps (p : DocumentPart) : (d.only p).steps = d.partSteps p := by
  rcases p with _ | kind
  on_goal 2 => cases kind
  all_goals simp [only, steps, partSteps, Kind.sectionSteps, sectionOf, StyleOverrides.steps,
    fieldSteps, SequenceSection.steps, ClassSection.steps, UseCaseSection.steps,
    EntitySection.steps, FlowSection.steps, StateSection.steps, nodeSteps, edgeSteps]

end Document

private theorem performs_style (edit : StyleEdit) (place : Place) :
    Step.Performs Part.style ⟨place, .edit (.style edit)⟩ (fun look =>
      match edit.revised look.1 with
      | .ok style => .ok Reply.done (style, notice look.2 [.style])
      | .error e => .error e look) := by
  intro s
  have hresolve : (Action.edit (.style edit)).resolve s = .ok (.style edit) := rfl
  rw [Action.perform_run, hresolve]
  dsimp only
  rw [Store.style_run]
  cases h : edit.revised s.style <;> simp [EStateM.run, Part.style, h]

private theorem fieldSteps_confined (name : String) (edit : α → StyleEdit) (value : Option α) :
    Confined Part.style (fieldSteps name edit value) := by
  cases value with
  | none => exact confined_nil
  | some v => exact confined_singleton (performs_style (edit v) _)

private theorem StyleOverrides.confined (o : StyleOverrides) : Confined Part.style o.steps :=
  (((fieldSteps_confined _ _ _).append (fieldSteps_confined _ _ _)).append
    (fieldSteps_confined _ _ _)).append (fieldSteps_confined _ _ _)

private theorem FlowSection.confined {L : Part FlowDiagram} {R : Rules String String Unit}
    {edit : FlowEdit → Edit}
    (hedit : ∀ e, Store.apply (edit e) = within L.part L.put (FlowDiagram.apply R e))
    (node edge : String) (c : FlowSection) : Confined L (c.steps node edge edit) :=
  confined_of_performs (sectionSteps_perform (fun n => hedit (.addNode n))
    (fun f : FlowSpec => hedit (.addEdge f.source f.target)) node edge c.nodes c.edges)

private theorem Kind.sectionSteps_confined (kind : Kind) (c : kind.Section) :
    Confined (Part.diagram kind) (kind.sectionSteps c) := by
  cases kind with
  | sequence =>
    have hedit (e : SequenceEdit) : Store.apply (.sequence e) =
        within Part.sequence.part Part.sequence.put (SequenceDiagram.apply e) := rfl
    exact confined_of_performs (sectionSteps_perform (fun n => hedit (.addActor n))
      (fun m : MessageSpec => hedit (.addMessage m.source m.target m.arrow m.text)) _ _ _ _)
  | classes => exact confined_of_performs c.steps_perform
  | useCase => exact confined_of_performs c.steps_perform
  | entity => exact confined_of_performs c.steps_perform
  | activity => exact FlowSection.confined (fun _ => rfl) _ _ c
  | component => exact FlowSection.confined (fun _ => rfl) _ _ c
  | state =>
    have hedit (e : StateEdit) : Store.apply (.state e) =
        within Part.state.part Part.state.put (StateDiagram.apply e) := rfl
    exact confined_of_performs (sectionSteps_perform (fun n => hedit (.addState n))
      (fun t : TransitionSpec => hedit (.addTransition t.source t.target t.event)) _ _ _ _)

namespace Document

variable (d : Document)

private theorem partSteps_confined (p : DocumentPart) : Confined p.target (d.partSteps p) := by
  cases p with
  | style => exact d.style.confined
  | diagram kind => exact kind.sectionSteps_confined (d.sectionOf kind)

/-- Steps leave all that their parts do not work on. -/
theorem replay_leaves {υ : Type} (view : Store → υ) (ps : List DocumentPart)
    (hview : ∀ p ∈ ps, ∀ s t, view (p.target.put s t) = view s) (s : Store) :
    view (s.replay (ps.flatMap d.partSteps)).1 = view s := by
  induction ps generalizing s with
  | nil => rfl
  | cons p ps ih =>
    rw [List.forall_mem_cons] at hview
    have hp := (d.partSteps_confined p).leaves hview.1 s
    rw [List.flatMap_cons, Store.replay_append, ← hp]
    rcases s.replay (d.partSteps p) with ⟨s', e | _⟩
    · rfl
    · exact ih hview.2 s'

/-- Parts that are applied one after the other do what each of them does to the store before, up to
the first that fails. -/
private theorem replay_parts {ps : List DocumentPart} (hps : ps.Nodup)
    (h : ∀ p ∈ ps, p.target.part s = p.target.part t) :
    match s.replay (ps.flatMap d.partSteps) with
    | (s', .ok ()) => ∀ p ∈ ps, (t.replay (d.partSteps p)).2 = .ok () ∧
        p.target.part s' = p.target.part (t.replay (d.partSteps p)).1
    | (_, .error e) => ∃ before p after, ps = before ++ p :: after ∧
        (∀ q ∈ before, (t.replay (d.partSteps q)).2 = .ok ()) ∧
        (t.replay (d.partSteps p)).2 = .error e := by
  induction ps generalizing s with
  | nil => simp [Store.replay]
  | cons p ps ih =>
    rw [List.forall_mem_cons] at h
    rw [List.nodup_cons] at hps
    have hconfined := d.partSteps_confined p
    have hne : ∀ q ∈ ps, p ≠ q := fun q hq heq => hps.1 (heq ▸ hq)
    obtain ⟨hpart, houtcome⟩ := hconfined.congr h.1
    have hothers : ∀ q ∈ ps,
        q.target.part (s.replay (d.partSteps p)).1 = q.target.part t := by
      intro q hq
      rw [hconfined.leaves (p.target_put_of_ne (hne q hq)), h.2 q hq]
    rw [List.flatMap_cons, Store.replay_append]
    rcases hr : s.replay (d.partSteps p) with ⟨s', e | _⟩
    · rw [hr] at houtcome
      exact ⟨[], p, ps, rfl, by simp, houtcome.symm⟩
    · rw [hr] at hpart houtcome hothers
      have hrest := ih hps.2 hothers
      have hleaves := d.replay_leaves p.target.part ps
        (fun q hq => q.target_put_of_ne (hne q hq).symm) s'
      dsimp only
      rcases hr' : s'.replay (ps.flatMap d.partSteps) with ⟨s'', e | _⟩
      · rw [hr'] at hrest
        obtain ⟨before, q, after, heq, hbefore, hq⟩ := hrest
        exact ⟨p :: before, q, after, congrArg _ heq,
          List.forall_mem_cons.mpr ⟨houtcome.symm, hbefore⟩, hq⟩
      · rw [hr'] at hrest hleaves
        exact List.forall_mem_cons.mpr ⟨⟨houtcome.symm, hleaves.trans hpart⟩, hrest⟩

private theorem apply_outcome (s : Store) : (d.apply s).2 = (s.replay d.steps).2 := by
  rw [apply]
  rcases s.replay d.steps with ⟨s', e | _⟩ <;> rfl

theorem apply_target (p : DocumentPart) (s : Store) :
    p.target.part (d.apply s).1 = p.target.part (s.replay d.steps).1 := by
  rw [apply]
  rcases s.replay d.steps with ⟨s', e | _⟩
  · rfl
  · exact p.target_setKind d.kind s'

/-- A document does what each of its parts does by itself, or fails as the first part that fails. -/
private theorem apply_parts (s : Store) :
    match (d.apply s).2 with
    | .ok () => ∀ p, ((d.only p).apply s).2 = .ok () ∧
        p.target.part (d.apply s).1 = p.target.part ((d.only p).apply s).1
    | .error e => ∃ before p after, DocumentPart.all = before ++ p :: after ∧
        (∀ q ∈ before, ((d.only q).apply s).2 = .ok ()) ∧
        ((d.only p).apply s).2 = .error e := by
  have h := d.replay_parts (s := s) (t := s) (by decide : DocumentPart.all.Nodup) fun _ _ => rfl
  rw [← steps_eq] at h
  simp only [apply_outcome, apply_target, only_steps]
  rcases hr : s.replay d.steps with ⟨s', e | _⟩
  · rw [hr] at h
    exact h
  · rw [hr] at h
    exact fun p => h p p.mem_all

private theorem apply_ok_iff_only (s : Store) :
    (d.apply s).2 = .ok () ↔ ∀ p, ((d.only p).apply s).2 = .ok () := by
  have h := d.apply_parts s
  rcases hd : (d.apply s).2 with e | _
  · rw [hd] at h
    obtain ⟨-, p, -, -, -, hp⟩ := h
    constructor
    · intro hok
      cases hok
    · intro hall
      cases hp.symm.trans (hall p)
  · rw [hd] at h
    exact ⟨fun _ p => (h p).1, fun _ => rfl⟩

theorem apply_ok_target (h : (d.apply s).2 = .ok ()) (p : DocumentPart) :
    p.target.part (d.apply s).1 = p.target.part ((d.only p).apply s).1 := by
  have hparts := d.apply_parts s
  rw [h] at hparts
  exact (hparts p).2

private theorem apply_error_first {e : ReplayError} (h : (d.apply s).2 = .error e) :
    ∃ before p after, DocumentPart.all = before ++ p :: after ∧
      (∀ q ∈ before, ((d.only q).apply s).2 = .ok ()) ∧ ((d.only p).apply s).2 = .error e := by
  have hparts := d.apply_parts s
  rw [h] at hparts
  exact hparts

/-- The diagram of a kind depends on the section for that kind alone. -/
private theorem apply_ok_diagram {d d' : Document} {s s' : Store} {kind : Kind}
    (hsection : d.sectionOf kind = d'.sectionOf kind) (hdiagram : s.diagram kind = s'.diagram kind)
    (h : (d.apply s).2 = .ok ()) (h' : (d'.apply s').2 = .ok ()) :
    (d.apply s).1.diagram kind = (d'.apply s').1.diagram kind := by
  have hsteps : d.partSteps (.diagram kind) = d'.partSteps (.diagram kind) := by
    rw [partSteps, partSteps, hsection]
  have hd := d.apply_ok_target h (.diagram kind)
  have hd' := d'.apply_ok_target h' (.diagram kind)
  rw [apply_target (d.only _), only_steps] at hd
  rw [apply_target (d'.only _), only_steps] at hd'
  rw [← Part.diagram_part, ← Part.diagram_part] at hdiagram ⊢
  have hcongr := ((d.partSteps_confined (.diagram kind)).congr hdiagram).1
  rw [hsteps] at hd hcongr
  exact hd.trans (hcongr.trans hd'.symm)

/-- A document can be applied exactly if each of its parts can be applied by itself. Then the style
and the diagrams are those that the parts make, each by itself; otherwise the document fails as the
first of its parts that fail. So the section for a kind and the style decide the source of that
kind, whatever else the document says. -/
theorem parts_independent (d : Document) (s : Store) :
    ((d.apply s).2 = .ok () ↔ ∀ p, ((d.only p).apply s).2 = .ok ()) ∧
    ((d.apply s).2 = .ok () →
      (d.apply s).1.style = ((d.only .style).apply s).1.style ∧
      ∀ kind, (d.apply s).1.diagram kind =
        ((d.only (.diagram kind)).apply s).1.diagram kind) ∧
    (∀ e, (d.apply s).2 = .error e →
      ∃ before p after, DocumentPart.all = before ++ p :: after ∧
        (∀ q ∈ before, ((d.only q).apply s).2 = .ok ()) ∧ ((d.only p).apply s).2 = .error e) ∧
    ∀ (d' : Document) (s' : Store) (kind : Kind), d.sectionOf kind = d'.sectionOf kind →
      s.diagram kind = s'.diagram kind →
      (d.apply s).2 = .ok () → (d'.apply s').2 = .ok () →
      (d.apply s).1.style = (d'.apply s').1.style →
        ((d.apply s).1.setKind kind).source = ((d'.apply s').1.setKind kind).source := by
  refine ⟨d.apply_ok_iff_only s, fun h => ⟨?_, fun kind => ?_⟩, fun e => d.apply_error_first, ?_⟩
  · have htarget := d.apply_ok_target h .style
    simp only [DocumentPart.target, Part.style, Prod.mk.injEq] at htarget
    exact htarget.1
  · have htarget := d.apply_ok_target h (.diagram kind)
    rw [← Part.diagram_part, ← Part.diagram_part]
    exact htarget
  · intro d' s' kind hsection hdiagram h h' hstyle
    exact Store.source_congr (apply_ok_diagram hsection hdiagram h h') hstyle

/-- A class section does not show in a sequence diagram, and an invalid color is reported before a
repeated state. -/
theorem parts_independent_by_example :
    let d : Document := { sequence := { actors := ["A", "B"], messages := [{ text := "hi" }] } }
    let d' : Document := { d with kind := .classes, classes := { classes := [{ name := "C" }] } }
    let bad : Document :=
      { d with style := { text := some "?" }, state := { states := ["S", "S"] } }
    ((d.apply {}).1.setKind .sequence).source = ((d'.apply {}).1.setKind .sequence).source ∧
      ∃ before p after, DocumentPart.all = before ++ p :: after ∧
        (∀ q ∈ before, ((bad.only q).apply {}).2 = .ok ()) ∧
        ((bad.only p).apply {}).2 = .error ⟨.style "text_color", .invalidColor "?"⟩ := by
  intro d d' bad
  have hd : (d.apply {}).2 = .ok () := by decide +kernel
  have hd' : (d'.apply {}).2 = .ok () := by decide +kernel
  have hstyle : (d.apply {}).1.style = (d'.apply {}).1.style := by decide +kernel
  have hbad : (bad.apply {}).2 = .error ⟨.style "text_color", .invalidColor "?"⟩ := by
    decide +kernel
  exact ⟨(parts_independent d {}).2.2.2 d' {} .sequence rfl rfl hd hd' hstyle,
    (parts_independent bad {}).2.2.1 _ hbad⟩

end Document

end UmlDiagrams
