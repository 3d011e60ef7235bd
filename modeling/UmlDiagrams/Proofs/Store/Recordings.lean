import UmlDiagrams.Proofs.Changes
import UmlDiagrams.Proofs.Store.Notices
/-!
# What is recorded in a run

Each accepted edit records some collections, all of the diagram or the style that it works on. The
notices are what was recorded since they were last taken, sorted by diagrams and without repetition.
-/

namespace UmlDiagrams

open Stateful

def SequenceEdit.touches : SequenceEdit → List Collection
  | addActor _ => [.actors]
  | removeActor _ => [.actors, .messages]
  | addMessage .. | removeMessage _ | retarget .. | setArrow .. | setText .. => [.messages]

def ClassEdit.touches : ClassEdit → List Collection
  | addClass .. | setAbstract .. => [.classes]
  | removeClass _ => [.classes, .classRelationships]
  | addAttribute .. | removeAttribute .. => [.classAttributes]
  | addMethod .. | removeMethod .. => [.classMethods]
  | addRelationship .. | removeRelationship _ | setKind .. | retarget .. | setLabel .. =>
    [.classRelationships]

def UseCaseEdit.touches : UseCaseEdit → List Collection
  | addActor _ => [.useCaseActors]
  | removeActor _ => [.useCaseActors, .useCaseLinks]
  | addUseCase _ => [.useCases]
  | removeUseCase _ => [.useCases, .useCaseLinks]
  | addLink .. | removeLink _ => [.useCaseLinks]

def EntityEdit.touches : EntityEdit → List Collection
  | addEntity _ => [.entities]
  | removeEntity _ => [.entities, .erRelationships]
  | addAttribute .. | removeAttribute .. => [.entityAttributes]
  | addRelationship .. | removeRelationship _ | setKind .. | retarget .. | setLabel .. =>
    [.erRelationships]

def FlowEdit.touches (nodes edges : Collection) : FlowEdit → List Collection
  | addNode _ => [nodes]
  | removeNode _ => [nodes, edges]
  | addEdge .. | removeEdge _ => [edges]

def StateEdit.touches : StateEdit → List Collection
  | addState _ => [.states]
  | removeState _ => [.states, .stateTransitions]
  | addTransition .. | removeTransition _ | setEvent .. => [.stateTransitions]

def Kind.cleared : Kind → List Collection
  | sequence => [.actors, .messages]
  | classes => [.classes, .classRelationships]
  | useCase => [.useCaseActors, .useCases, .useCaseLinks]
  | entity => [.entities, .erRelationships]
  | activity => [.activities, .activityFlows]
  | component => [.components, .componentDependencies]
  | state => [.states, .stateTransitions]

/-- The collections that an accepted edit records while `active` is active. -/
def Edit.touches (active : Kind) : Edit → List Collection
  | sequence edit => edit.touches
  | classes edit => edit.touches
  | useCase edit => edit.touches
  | entity edit => edit.touches
  | activity edit => edit.touches .activities .activityFlows
  | component edit => edit.touches .components .componentDependencies
  | state edit => edit.touches
  | style _ => [.style]
  | setKind _ => []
  | clear => active.cleared

private theorem SequenceEdit.Effect.changes {edit : SequenceEdit} {d d' : SequenceDiagram}
    (h : edit.Effect d d') : d'.changes = notice d.changes edit.touches := by
  cases edit with
  | addActor =>
    obtain ⟨text, -, rfl⟩ := h
    rfl
  | removeActor | removeMessage =>
    obtain ⟨-, rfl⟩ := h
    rfl
  | addMessage =>
    obtain ⟨a, b, -, rfl⟩ := h
    rfl
  | retarget | setArrow | setText =>
    obtain ⟨old, -, edge, -, -, rfl⟩ := h
    rfl

private theorem ClassEdit.Effect.changes {edit : ClassEdit} {d d' : ClassDiagram}
    (h : edit.Effect d d') : d'.changes = notice d.changes edit.touches := by
  cases edit with
  | addClass =>
    obtain ⟨text, -, rfl⟩ := h
    rfl
  | removeClass | removeRelationship =>
    obtain ⟨-, rfl⟩ := h
    rfl
  | addRelationship =>
    obtain ⟨a, b, -, rfl⟩ := h
    rfl
  | setAbstract | addAttribute | removeAttribute | addMethod | removeMethod =>
    obtain ⟨old, -, node, -, -, rfl⟩ := h
    rfl
  | setKind | retarget | setLabel =>
    obtain ⟨old, -, edge, -, -, rfl⟩ := h
    rfl

private theorem UseCaseEdit.Effect.changes {edit : UseCaseEdit} {d d' : UseCaseDiagram}
    (h : edit.Effect d d') : d'.changes = notice d.changes edit.touches := by
  cases edit with
  | addActor | addUseCase =>
    obtain ⟨text, -, rfl⟩ := h
    rfl
  | removeActor | removeUseCase | removeLink =>
    obtain ⟨-, rfl⟩ := h
    rfl
  | addLink =>
    obtain ⟨a, u, -, rfl⟩ := h
    rfl

private theorem EntityEdit.Effect.changes {edit : EntityEdit} {d d' : EntityDiagram}
    (h : edit.Effect d d') : d'.changes = notice d.changes edit.touches := by
  cases edit with
  | addEntity =>
    obtain ⟨text, -, rfl⟩ := h
    rfl
  | removeEntity | removeRelationship =>
    obtain ⟨-, rfl⟩ := h
    rfl
  | addRelationship =>
    obtain ⟨a, b, -, rfl⟩ := h
    rfl
  | addAttribute | removeAttribute =>
    obtain ⟨old, -, node, -, -, rfl⟩ := h
    rfl
  | setKind | retarget | setLabel =>
    obtain ⟨old, -, edge, -, -, rfl⟩ := h
    rfl

private theorem FlowEdit.Effect.changes {R : Rules String String Unit} {edit : FlowEdit}
    {d d' : FlowDiagram} (h : edit.Effect R d d') :
    d'.changes = notice d.changes (edit.touches R.nodes R.edges) := by
  cases edit with
  | addNode =>
    obtain ⟨text, -, rfl⟩ := h
    rfl
  | removeNode | removeEdge =>
    obtain ⟨-, rfl⟩ := h
    rfl
  | addEdge =>
    obtain ⟨a, b, -, rfl⟩ := h
    rfl

private theorem StateEdit.Effect.changes {edit : StateEdit} {d d' : StateDiagram}
    (h : edit.Effect d d') : d'.changes = notice d.changes edit.touches := by
  cases edit with
  | addState =>
    obtain ⟨text, -, rfl⟩ := h
    rfl
  | removeState | removeTransition =>
    obtain ⟨-, rfl⟩ := h
    rfl
  | addTransition =>
    obtain ⟨a, b, -, rfl⟩ := h
    rfl
  | setEvent =>
    obtain ⟨old, -, edge, -, -, rfl⟩ := h
    rfl

private theorem Edit.kind?_of_touches {active : Kind} {edit : Edit} :
    ∀ c ∈ edit.touches active, c.kind? = edit.address active := by
  cases edit with
  | sequence edit => cases edit <;> simp [touches, SequenceEdit.touches, Collection.kind?, address]
  | classes edit => cases edit <;> simp [touches, ClassEdit.touches, Collection.kind?, address]
  | useCase edit => cases edit <;> simp [touches, UseCaseEdit.touches, Collection.kind?, address]
  | entity edit => cases edit <;> simp [touches, EntityEdit.touches, Collection.kind?, address]
  | activity edit => cases edit <;> simp [touches, FlowEdit.touches, Collection.kind?, address]
  | component edit => cases edit <;> simp [touches, FlowEdit.touches, Collection.kind?, address]
  | state edit => cases edit <;> simp [touches, StateEdit.touches, Collection.kind?, address]
  | style => simp [touches, Collection.kind?, address]
  | setKind => exact fun c hc => absurd hc List.not_mem_nil
  | clear => cases active <;> simp [touches, Kind.cleared, Collection.kind?, address]

namespace Store

variable {s s' : Store}

/-- The pending notices of a diagram, or of the style. -/
def log (s : Store) : Option Kind → List Collection
  | none => s.styleChanges
  | some kind => s.notices kind

/-- The collections that the edit records. A rejected edit and a removal that finds nothing record
none. -/
def recorded (s : Store) (edit : Edit) : List Collection :=
  match (apply edit).outcome s with
  | .ok reply => if reply = .removed false then [] else edit.touches s.kind
  | .error _ => []

private theorem effect_log {edit : Edit} (h : edit.Effect s s') :
    s'.log (edit.address s.kind) = notice (s.log (edit.address s.kind)) (edit.touches s.kind) := by
  cases edit with
  | sequence edit | classes edit | useCase edit | entity edit | activity edit | component edit
  | state edit =>
    obtain ⟨d, hd, rfl⟩ := h
    exact hd.changes
  | style edit =>
    obtain ⟨style, -, rfl⟩ := h
    rfl
  | setKind kind =>
    cases h
    exact setKind_styleChanges
  | clear =>
    cases h
    change s.clear.notices s.kind = _
    rw [clear]
    cases hkind : s.kind <;> rfl

private theorem kind?_of_recorded {edit : Edit} :
    ∀ c ∈ s.recorded edit, c.kind? = edit.address s.kind := by
  intro c hc
  rw [recorded] at hc
  cases h : (apply edit).outcome s with
  | error e =>
    rw [h] at hc
    cases hc
  | ok reply =>
    rw [h] at hc
    dsimp only at hc
    by_cases hrefused : reply = .removed false
    · rw [if_pos hrefused] at hc
      cases hc
    · rw [if_neg hrefused] at hc
      exact Edit.kind?_of_touches c hc

private theorem after_log_self (edit : Edit) (s : Store) :
    ((apply edit).after s).log (edit.address s.kind) =
      notice (s.log (edit.address s.kind)) (s.recorded edit) := by
  have hends := apply_effects edit s
  rw [recorded, outcome, after]
  generalize (apply edit).run s = result at hends ⊢
  cases hends with
  | failed e => rfl
  | refused reply h =>
    rw [Reply.Refuses] at h
    dsimp only
    rw [if_pos h]
    rfl
  | accepted reply s' h heffect =>
    rw [Reply.Refuses] at h
    dsimp only
    rw [if_neg h]
    exact effect_log heffect

private theorem after_log_of_ne {edit : Edit} {part : Option Kind}
    (h : edit.address s.kind ≠ part) :
    ((apply edit).after s).log part = s.log part := by
  cases part with
  | some kind => exact notices_congr (after_diagram_of_ne h)
  | none =>
    refine (after_style_of_not_isStyle ?_).2
    cases edit <;> first | rfl | exact absurd rfl h

/-- An edit adds to each log what it records of that part. -/
private theorem after_log (edit : Edit) (s : Store) (part : Option Kind) :
    ((apply edit).after s).log part =
      notice (s.log part) ((s.recorded edit).filter (·.kind? = part)) := by
  by_cases h : edit.address s.kind = part
  · have hall : (s.recorded edit).filter (·.kind? = part) = s.recorded edit :=
      List.filter_eq_self.mpr fun c hc => decide_eq_true ((kind?_of_recorded c hc).trans h)
    rw [hall, ← h, after_log_self]
  · have hnone : (s.recorded edit).filter (·.kind? = part) = [] :=
      List.filter_eq_nil_iff.mpr fun c hc hpart =>
        h ((kind?_of_recorded c hc).symm.trans (of_decide_eq_true hpart))
    rw [hnone, after_log_of_ne h]
    rfl

/-- What is recorded in the end, after `recorded` was: all that was since the notices were last
taken, in its order. -/
def recordedBy (s : Store) (recorded : List Collection) : List Operation → List Collection
  | [] => recorded
  | .edit edit :: operations =>
    ((apply edit).after s).recordedBy (recorded ++ s.recorded edit) operations
  | .takeChanges :: operations => s.takeChanges.2.recordedBy [] operations

/-- The logs hold what was recorded, each collection where it was first. -/
def Logs (s : Store) (recorded : List Collection) : Prop :=
  ∀ part, s.log part = notice [] (recorded.filter (·.kind? = part))

variable {seen : List Collection}

private theorem Logs.edit (h : s.Logs seen) (edit : Edit) :
    ((apply edit).after s).Logs (seen ++ s.recorded edit) := by
  intro part
  rw [after_log, h part, List.filter_append, notice_append]

private theorem logs_taken (s : Store) : s.takeChanges.2.Logs [] := by
  intro part
  cases part with
  | none => rfl
  | some kind => cases kind <;> rfl

private theorem Logs.run (h : s.Logs seen) (operations : List Operation) :
    (s.run operations).Logs (s.recordedBy seen operations) := by
  induction operations generalizing s seen with
  | nil => exact h
  | cons operation operations ih =>
    cases operation with
    | edit edit => exact ih (h.edit edit)
    | takeChanges => exact ih s.logs_taken

end Store

namespace Collection

/-- The collections in the order in which notices are given: those of the style first, and then
those of each kind of diagram. -/
def byPart (recorded : List Collection) : List Collection :=
  (none :: Kind.all.map some).flatMap fun part => recorded.filter (·.kind? = part)

private theorem mem_byPart {recorded : List Collection} {c : Collection} :
    c ∈ byPart recorded ↔ c ∈ recorded := by
  have hpart : c.kind? ∈ none :: Kind.all.map some := by
    cases c <;> decide
  rw [byPart, List.mem_flatMap]
  constructor
  · rintro ⟨part, -, hc⟩
    exact List.mem_of_mem_filter hc
  · exact fun hc => ⟨c.kind?, hpart, List.mem_filter.mpr ⟨hc, decide_eq_true rfl⟩⟩

end Collection

namespace Store

private theorem logs_initial (style : Style) : ({ style } : Store).Logs [] := by
  intro part
  cases part with
  | none => rfl
  | some kind => cases kind <;> rfl

private theorem pendingChanges_eq_log (s : Store) :
    s.pendingChanges = ((none :: Kind.all.map some).map s.log).foldl notice [] :=
  rfl

private theorem Logs.pendingChanges_eq {s : Store} {seen : List Collection} (h : s.Logs seen) :
    s.pendingChanges = notice [] (Collection.byPart seen) := by
  rw [pendingChanges_eq_log, funext h, foldl_notice, Collection.byPart]

private theorem pendingChanges_of_recorded_eq_nil {s : Store} {edit : Edit}
    (h : s.recorded edit = []) :
    ((apply edit).after s).pendingChanges = s.pendingChanges := by
  have hlog : ((apply edit).after s).log = s.log := by
    funext part
    rw [after_log, h]
    rfl
  rw [pendingChanges_eq_log, hlog, ← pendingChanges_eq_log]

/-- The notices are precisely what was recorded since they were last taken, each collection once:
the style first, then kind by kind, and within a kind in the order of the first records. Nothing is
left after they are taken, and how edits of different diagrams were interleaved makes no
difference. -/
theorem takeChanges_recorded (style : Style) (operations : List Operation) :
    let s := run { style } operations
    let recorded := recordedBy { style } [] operations
    s.takeChanges.1 = (Collection.byPart recorded).eraseDups ∧ s.takeChanges.1.Nodup ∧
      (∀ c, c ∈ s.takeChanges.1 ↔ c ∈ recorded) ∧ s.takeChanges.2.takeChanges.1 = [] ∧
      (∀ edit, (∃ e, (apply edit).outcome s = .error e) ∨
        (apply edit).outcome s = .ok (.removed false) ∨ (∃ kind, edit = .setKind kind) →
          ((apply edit).after s).takeChanges.1 = s.takeChanges.1) ∧
      ∀ edits others : List Edit,
        (∀ kind, addressed kind s.kind others = addressed kind s.kind edits) →
        others.filter Edit.isStyle = edits.filter Edit.isStyle →
          (s.edited others).takeChanges.1 = (s.edited edits).takeChanges.1 := by
  intro s recorded
  have hlogs : s.Logs recorded := (logs_initial style).run operations
  have hnotices : s.takeChanges.1 = notice [] (Collection.byPart recorded) :=
    hlogs.pendingChanges_eq
  refine ⟨hnotices.trans (notice_nil_eq _), hnotices ▸ notice_nodup List.nodup_nil, fun c => ?_,
    s.logs_taken.pendingChanges_eq, fun edit hedit => pendingChanges_of_recorded_eq_nil ?_,
    fun edits others haddressed hfilter => ?_⟩
  · rw [hnotices, mem_notice, Collection.mem_byPart]
    exact or_iff_right List.not_mem_nil
  · rw [Store.recorded]
    rcases hedit with ⟨e, he⟩ | hnothing | ⟨kind, rfl⟩
    · rw [he]
    · rw [hnothing]
      rfl
    · rfl
  · have hdiagram (edits : List Edit) (kind : Kind) :=
      edited_diagram edits (setKind_diagram (s := s) kind).symm setKind_kind
    have hstyle (edits : List Edit) := (edited_style edits (rfl : s.style = s.style) rfl).2
    refine pendingChanges_congr (fun kind => ?_) ?_
    · rw [hdiagram others, hdiagram edits, haddressed]
    · rw [hstyle others, hstyle edits, hfilter]

/-- States come before the actor and the style in the run, and after them in the notices. Two edits
of different diagrams can change places. -/
theorem takeChanges_recorded_states :
    let operations : List Operation := [.edit (.state (.addState "A")), .takeChanges,
      .edit (.setKind .state), .edit (.sequence (.removeActor "X")),
      .edit (.state (.removeState "A")), .edit (.state (.addState "A")),
      .edit (.state (.addState "A")), .edit (.sequence (.addActor "X")),
      .edit (.style (.text "#000000"))]
    let s := run {} operations
    s.takeChanges.1 = [.style, .actors, .states, .stateTransitions] ∧
      s.takeChanges.2.takeChanges.1 = [] ∧
      (s.edited [.sequence (.addActor "Y"), .useCase (.addActor "Y")]).takeChanges.1 =
        (s.edited [.useCase (.addActor "Y"), .sequence (.addActor "Y")]).takeChanges.1 := by
  intro operations s
  have hrecorded : recordedBy {} [] operations =
      [.states, .stateTransitions, .states, .actors, .style] := by
    decide +kernel
  obtain ⟨hnotices, -, -, htaken, -, hinterleaved⟩ := takeChanges_recorded {} operations
  rw [hrecorded] at hnotices
  refine ⟨hnotices, htaken, hinterleaved _ _ (fun kind => ?_) rfl⟩
  cases kind <;> rfl

end Store

end UmlDiagrams
