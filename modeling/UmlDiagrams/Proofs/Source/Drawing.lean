import UmlDiagrams.Proofs.Source.Layouts
/-!
# Stores read off their source

Stores with the same source show the same. Use-case diagrams are no graphs, but are read off in the
same way.
-/

namespace UmlDiagrams

open Text

/-- What the source shows of a use-case diagram. The ends of a link are positions of an actor and of
a use case. -/
structure UseCaseOutline where
  actors : List String
  useCases : List String
  links : List (Nat × Nat)
deriving DecidableEq, Repr

private theorem Direction.line_injective : Function.Injective Direction.line := by
  intro a b
  cases a <;> cases b <;> decide

namespace UseCaseDiagram

def outline (d : UseCaseDiagram) : UseCaseOutline where
  actors := d.actors.map quoted
  useCases := d.useCases.map quoted
  links := d.links.map fun l => (d.actors.idxOf l.actor, d.useCases.idxOf l.useCase)

def declarations (actors useCases : List String) : List String :=
  actors.map ("actor " ++ quoted ·) ++ useCases.map ("usecase " ++ quoted ·)

theorem blocks_flatten (d : UseCaseDiagram) (direction : Direction) :
    (d.body direction).blocks.flatten = declarations d.actors d.useCases := by
  rw [body, List.flatten_append, flatten_singletons, flatten_singletons, declarations]

def declaresActor (line : String) : Bool :=
  line.toList.head? = some 'a'

@[simp] theorem declaresActor_actor (s : String) : declaresActor ("actor " ++ s) := by
  simp [declaresActor]

@[simp] theorem declaresActor_useCase (s : String) : declaresActor ("usecase " ++ s) = false := by
  simp [declaresActor]

private theorem declarations_inj {as us as' us' : List String}
    (h : declarations as us = declarations as' us') :
    as.map quoted = as'.map quoted ∧ us.map quoted = us'.map quoted := by
  have hactors (as us : List String) : (declarations as us).filter declaresActor =
      as.map ("actor " ++ quoted ·) := by
    simp [declarations, List.filter_map, Function.comp_def]
  have huseCases (as us : List String) : (declarations as us).filter (!declaresActor ·) =
      us.map ("usecase " ++ quoted ·) := by
    simp [declarations, List.filter_map, Function.comp_def]
  constructor
  · have hlines := congrArg (List.filter declaresActor) h
    rw [hactors, hactors] at hlines
    exact map_eq_map_of_imp (fun _ _ => (String.append_right_inj _).mp) hlines
  · have hlines := congrArg (List.filter (!declaresActor ·)) h
    rw [huseCases, huseCases] at hlines
    exact map_eq_map_of_imp (fun _ _ => (String.append_right_inj _).mp) hlines

private theorem declarations_proper {actors useCases : List String} {l : String}
    (h : l ∈ declarations actors useCases) : OneLine l ∧ l ≠ "" := by
  rcases List.mem_append.mp h with h | h
  all_goals
    obtain ⟨n, -, rfl⟩ := List.mem_map.mp h
    refine ⟨oneLine_append.mpr ⟨by decide, oneLine_quoted n⟩, fun hempty => ?_⟩
    exact quoted_ne_empty n (String.append_eq_empty_iff.mp hempty).2

private theorem layout_readable : FlowDiagram.activityLayout.Readable :=
  (FlowDiagram.layout_shows (by decide) quoted_isToken).readable

private theorem link_line_inj {a a' u u' : String}
    (h : edgeLine (quoted a) "-->" (quoted u) "" = edgeLine (quoted a') "-->" (quoted u') "") :
    quoted a = quoted a' ∧ quoted u = quoted u' := by
  have hline : FlowDiagram.activityLayout.line a () u =
      FlowDiagram.activityLayout.line a' () u' := h
  obtain ⟨hactor, huseCase, -, -⟩ := Layout.line_inj layout_readable hline
  exact ⟨hactor, huseCase⟩

private theorem body_readable (d : UseCaseDiagram) (direction : Direction) :
    (d.body direction).Readable := by
  refine ⟨?_, ?_, ?_, ?_⟩
  · refine List.forall_mem_singleton.mpr ?_
    cases direction <;> decide
  · rw [blocks_flatten]
    exact fun l hl => (declarations_proper hl).1
  · intro line hline
    obtain ⟨l, -, rfl⟩ := List.mem_map.mp hline
    exact Layout.oneLine_line layout_readable l.actor () l.useCase
  · rw [blocks_flatten]
    exact fun hm => (declarations_proper hm).2 rfl

variable {d d' : UseCaseDiagram} {b b' : Body}

private theorem Resolves.actors_nodup (h : d.Resolves b) : d.actors.Nodup :=
  (List.nodup_append.mp h.distinct).1.of_map _

private theorem Resolves.useCases_nodup (h : d.Resolves b) : d.useCases.Nodup :=
  (List.nodup_append.mp h.distinct).2.1.of_map _

/-- Where the tokens and the lines of the links agree, the links join the same positions. -/
private theorem Resolves.links_eq (h : d.Resolves b) (h' : d'.Resolves b')
    (htokens : d.tokens = d'.tokens) (hlength : d.actors.length = d'.actors.length)
    (hlines : b.edges = b'.edges) :
    d.outline.links = d'.outline.links := by
  refine map_eq_map_of_forall₂ ?_ h.resolved (hlines ▸ h'.resolved)
  rintro l l' line ⟨i, j, hi, hati, hj, hatj, rfl⟩ ⟨i', j', hi', hati', hj', hatj', hline⟩
  obtain ⟨hactor, huseCase⟩ := link_line_inj hline
  rw [htokens, hactor] at hati
  rw [htokens, huseCase] at hatj
  have hsum := hatj.unique hatj'
  have hplace : j = j' := by omega
  rw [idxOf_of_getElem? h.actors_nodup hi, idxOf_of_getElem? h'.actors_nodup hi',
    idxOf_of_getElem? h.useCases_nodup hj, idxOf_of_getElem? h'.useCases_nodup hj',
    hati.unique hati', hplace]

/-- Use-case diagrams that are written with the same lines have the same direction and outline. -/
private theorem outline_eq (h : d.Sound) (h' : d'.Sound) {direction direction' : Direction}
    (hlines : (d.body direction).lines = (d'.body direction').lines) :
    direction = direction' ∧ d.outline = d'.outline := by
  obtain ⟨hopening, hflatten, hedges⟩ :=
    Body.lines_inj (d.body_readable direction) (d'.body_readable direction') rfl hlines
  have hdirection := Direction.line_injective (List.cons.inj hopening).1
  rw [blocks_flatten, blocks_flatten] at hflatten
  obtain ⟨hactors, huseCases⟩ := declarations_inj hflatten
  have htokens : d.tokens = d'.tokens := by rw [tokens, tokens, hactors, huseCases]
  have hlength : d.actors.length = d'.actors.length := by simpa using congrArg List.length hactors
  have hlinks := (body_resolves h direction).links_eq (body_resolves h' direction') htokens hlength
    hedges
  refine ⟨hdirection, ?_⟩
  rw [outline, outline, UseCaseOutline.mk.injEq]
  exact ⟨hactors, huseCases, hlinks⟩

end UseCaseDiagram

/-- What the source of a diagram shows, by its kind. -/
inductive Drawing where
  | sequence (outline : Outline String (Arrow × String))
  | classes (outline : Outline ClassOutline (ClassRelation × String))
  | useCase (direction : Direction) (outline : UseCaseOutline)
  | entity (outline : Outline EntityOutline (ErRelation × String))
  | activity (outline : Outline String Unit)
  | component (outline : Outline String Unit)
  | state (outline : Outline String String)
deriving DecidableEq, Repr

namespace Store

def drawing (s : Store) : Kind → Drawing
  | .sequence => .sequence s.sequence.outline
  | .classes => .classes s.classes.outline
  | .useCase => .useCase s.style.direction s.useCase.outline
  | .entity => .entity s.entity.outline
  | .activity => .activity s.activity.activityOutline
  | .component => .component s.component.componentOutline
  | .state => .state s.state.outline

variable {s t : Store}

private theorem body_readable (h : s.Sound) (kind : Kind) : (s.body kind).Readable := by
  cases kind with
  | sequence => exact (SequenceDiagram.written h.sequence).readable SequenceDiagram.layout_shows
  | classes => exact (ClassDiagram.written h.classes).readable ClassDiagram.layout_shows
  | useCase => exact s.useCase.body_readable s.style.direction
  | entity => exact (EntityDiagram.written h.entity).readable EntityDiagram.layout_shows
  | activity =>
    exact (FlowDiagram.activity_written h.activity).readable
      (FlowDiagram.layout_shows (by decide) quoted_isToken)
  | component =>
    exact (FlowDiagram.component_written h.component).readable
      (FlowDiagram.layout_shows (by decide) bracketed_isToken)
  | state => exact (StateDiagram.written h.state).readable StateDiagram.layout_shows

private theorem drawing_eq (hs : s.Sound) (ht : t.Sound) (kind : Kind)
    (h : (s.body kind).lines = (t.body kind).lines) : s.drawing kind = t.drawing kind := by
  cases kind with
  | sequence =>
    exact congrArg _ ((SequenceDiagram.written hs.sequence).outline_eq SequenceDiagram.layout_shows
      (SequenceDiagram.written ht.sequence) h)
  | classes =>
    exact congrArg _ ((ClassDiagram.written hs.classes).outline_eq ClassDiagram.layout_shows
      (ClassDiagram.written ht.classes) h)
  | useCase =>
    obtain ⟨hdirection, houtline⟩ := UseCaseDiagram.outline_eq hs.useCase ht.useCase h
    rw [drawing, drawing, hdirection, houtline]
  | entity =>
    exact congrArg _ ((EntityDiagram.written hs.entity).outline_eq EntityDiagram.layout_shows
      (EntityDiagram.written ht.entity) h)
  | activity =>
    exact congrArg _ ((FlowDiagram.activity_written hs.activity).outline_eq
      (FlowDiagram.layout_shows (by decide) quoted_isToken)
      (FlowDiagram.activity_written ht.activity) h)
  | component =>
    exact congrArg _ ((FlowDiagram.component_written hs.component).outline_eq
      (FlowDiagram.layout_shows (by decide) bracketed_isToken)
      (FlowDiagram.component_written ht.component) h)
  | state =>
    exact congrArg _ ((StateDiagram.written hs.state).outline_eq StateDiagram.layout_shows
      (StateDiagram.written ht.state) h)

/-- What some operations make of a new store with the default style or a validated one. -/
def Reachable (s : Store) : Prop :=
  ∃ (style : Style) (operations : List Operation), style.Initial ∧ s = run { style } operations

theorem Reachable.sound (h : s.Reachable) : s.Sound := by
  obtain ⟨style, operations, -, rfl⟩ := h
  exact run_sound (initial_sound style) operations

theorem Reachable.style_valid (h : s.Reachable) : s.style.Valid := by
  obtain ⟨style, operations, hstyle, rfl⟩ := h
  exact run_style_valid hstyle.valid operations

/-- What a store shows can be read off its source. Where two stores of one kind have the same
source, they have the same colors, the same printed nodes in the same order, and the same edges in
the same order: between nodes at the same positions, and alike in kind and in folded text. -/
theorem source_determines (hs : s.Reachable) (ht : t.Reachable) (hkind : s.kind = t.kind)
    (hsource : s.source = t.source) :
    s.style.background = t.style.background ∧ s.style.text = t.style.text ∧
      s.style.primary = t.style.primary ∧ s.drawing s.kind = t.drawing t.kind := by
  obtain ⟨⟨hbackground, htext, hprimary⟩, hlines⟩ := source_parts hs.style_valid ht.style_valid
    (body_readable hs.sound s.kind) (body_readable ht.sound t.kind) hsource
  refine ⟨hbackground, htext, hprimary, ?_⟩
  rw [← hkind] at hlines ⊢
  exact drawing_eq hs.sound ht.sound s.kind hlines

/-- Names and texts that print alike are not told apart. Which states a transition joins is clear
even where its event looks like another transition. -/
theorem source_determines_alike :
    let edits (name event : String) : List Operation := [.edit (.setKind .state),
      .edit (.state (.addState name)), .edit (.state (.addState "B")),
      .edit (.state (.addTransition none none event))]
    let s := run {} (edits "say \"hi\"" "on\n\"B\" --> \"B\" : x")
    let t := run {} (edits "say 'hi'" "on\\n\"B\" --> \"B\" : x")
    s.kind = t.kind ∧ s.source = t.source ∧ s.state ≠ t.state ∧
      s.drawing s.kind = t.drawing t.kind := by
  intro edits s t
  have hs : s.Reachable := ⟨{}, edits "say \"hi\"" "on\n\"B\" --> \"B\" : x", .inl rfl, rfl⟩
  have ht : t.Reachable := ⟨{}, edits "say 'hi'" "on\\n\"B\" --> \"B\" : x", .inl rfl, rfl⟩
  have hkind : s.kind = t.kind := by decide +kernel
  have hsource : s.source = t.source := by decide +kernel
  have hne : s.state ≠ t.state := by decide +kernel
  exact ⟨hkind, hsource, hne, (source_determines hs ht hkind hsource).2.2.2⟩

end Store

end UmlDiagrams
