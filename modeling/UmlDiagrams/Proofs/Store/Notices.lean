import UmlDiagrams.Proofs.Diagram.Notices
import UmlDiagrams.Proofs.Store.Effects
import UmlDiagrams.Proofs.Store.Isolation
import UmlDiagrams.Proofs.Store.Sound
/-!
# What a store notes

Between two takings of the change notices, a collection that has changed was noted, or its records
went away with the class or the entity that held them, which is noted for the class or the entity
only.
-/

namespace UmlDiagrams

open Stateful

def Collection.kind? : Collection → Option Kind
  | actors | messages => some .sequence
  | classes | classAttributes | classMethods | classRelationships => some .classes
  | useCaseActors | useCases | useCaseLinks => some .useCase
  | entities | entityAttributes | erRelationships => some .entity
  | activities | activityFlows => some .activity
  | components | componentDependencies => some .component
  | states | stateTransitions => some .state
  | style => none

/-- What a collection is made of. Classes and entities stand there without their members, which are
collections of their own. -/
abbrev Collection.Contents : Collection → Type
  | actors => List String
  | messages => List (Edge String Message)
  | classes => List (Id × String × Bool)
  | classAttributes => List ClassAttribute
  | classMethods => List ClassMethod
  | classRelationships => List (Edge Id (Relation ClassRelation))
  | useCaseActors => List String
  | useCases => List String
  | useCaseLinks => List UseCaseLink
  | entities => List (Id × String)
  | entityAttributes => List EntityAttribute
  | erRelationships => List (Edge Id (Relation ErRelation))
  | activities => List String
  | activityFlows => List (Edge String Unit)
  | components => List String
  | componentDependencies => List (Edge String Unit)
  | states => List String
  | stateTransitions => List (Edge String String)
  | style => Style

/-- The collections of members that an edit takes away with the records that hold them. -/
def Edit.discards : Edit → List Collection
  | classes (.removeClass _) => [.classAttributes, .classMethods]
  | entity (.removeEntity _) => [.entityAttributes]
  | clear => [.classAttributes, .classMethods, .entityAttributes]
  | _ => []

namespace Store

/-- Members are in the order of the classes or entities that hold them. -/
def contents (s : Store) : (c : Collection) → c.Contents
  | .actors => s.sequence.nodes
  | .messages => s.sequence.edges
  | .classes => s.classes.nodes.map ClassRecord.head
  | .classAttributes => s.classes.nodes.flatMap ClassRecord.attributes
  | .classMethods => s.classes.nodes.flatMap ClassRecord.methods
  | .classRelationships => s.classes.edges
  | .useCaseActors => s.useCase.actors
  | .useCases => s.useCase.useCases
  | .useCaseLinks => s.useCase.links
  | .entities => s.entity.nodes.map EntityRecord.head
  | .entityAttributes => s.entity.nodes.flatMap EntityRecord.attributes
  | .erRelationships => s.entity.edges
  | .activities => s.activity.nodes
  | .activityFlows => s.activity.edges
  | .components => s.component.nodes
  | .componentDependencies => s.component.edges
  | .states => s.state.nodes
  | .stateTransitions => s.state.edges
  | .style => s.style

/-- Done to `s`, the edit takes members in this collection away with the records that hold them. -/
def Drops (s : Store) (c : Collection) (edit : Edit) : Prop :=
  c ∈ edit.discards ∧ ((apply edit).after s).contents c ≠ s.contents c

def notices (s : Store) : Kind → List Collection
  | .sequence => s.sequence.changes
  | .classes => s.classes.changes
  | .useCase => s.useCase.changes
  | .entity => s.entity.changes
  | .activity => s.activity.changes
  | .component => s.component.changes
  | .state => s.state.changes

variable {s s' : Store} {c : Collection} {edit : Edit}

private theorem mem_pendingChanges :
    c ∈ s.pendingChanges ↔ c ∈ s.styleChanges ∨ ∃ kind, c ∈ s.notices kind := by
  simp only [pendingChanges, List.foldl_cons, List.foldl_nil, mem_notice, List.not_mem_nil,
    false_or]
  constructor
  · rintro (((((((h | h) | h) | h) | h) | h) | h) | h)
    · exact .inl h
    · exact .inr ⟨.sequence, h⟩
    · exact .inr ⟨.classes, h⟩
    · exact .inr ⟨.useCase, h⟩
    · exact .inr ⟨.entity, h⟩
    · exact .inr ⟨.activity, h⟩
    · exact .inr ⟨.component, h⟩
    · exact .inr ⟨.state, h⟩
  · rintro (h | ⟨kind, h⟩)
    · simp [h]
    · cases kind <;> rw [notices] at h <;> simp [h]

private theorem pending_of_notice (kind : Kind) (h : c ∈ s.notices kind) : c ∈ s.pendingChanges :=
  mem_pendingChanges.mpr (.inr ⟨kind, h⟩)

private theorem contents_congr (hstyle : s'.style = s.style)
    (hdiagram : ∀ kind, c.kind? = some kind → s'.diagram kind = s.diagram kind) :
    s'.contents c = s.contents c := by
  cases c with
  | style => exact hstyle
  | _ =>
    have h := hdiagram _ rfl
    simp only [diagram] at h
    simp only [contents, h]

theorem notices_congr {kind : Kind} (h : s'.diagram kind = s.diagram kind) :
    s'.notices kind = s.notices kind := by
  cases kind <;> simp only [diagram] at h <;> simp only [notices, h]

/-- The second store has all notices of the first, and one for each collection in which it differs
from the first, unless the collection is one of `dropped`. -/
structure Noted (dropped : List Collection) (s s' : Store) : Prop where
  kept : s.pendingChanges ⊆ s'.pendingChanges
  noted : ∀ c, s'.contents c = s.contents c ∨ c ∈ s'.pendingChanges ∨ c ∈ dropped

variable {dropped : List Collection}

private theorem noted_of_diagram (kind : Kind) (hstyle : s'.style = s.style)
    (hchanges : s'.styleChanges = s.styleChanges)
    (hothers : ∀ other, other ≠ kind → s'.diagram other = s.diagram other)
    (hkept : s.notices kind ⊆ s'.notices kind)
    (hown : ∀ c, c.kind? = some kind →
      s'.contents c = s.contents c ∨ c ∈ s'.notices kind ∨ c ∈ dropped) : Noted dropped s s' := by
  constructor
  · intro c hc
    rcases mem_pendingChanges.mp hc with h | ⟨other, h⟩
    · exact mem_pendingChanges.mpr (.inl (hchanges ▸ h))
    · by_cases hother : other = kind
      · subst hother
        exact pending_of_notice other (hkept h)
      · rw [← notices_congr (hothers other hother)] at h
        exact pending_of_notice other h
  · intro c
    by_cases hc : c.kind? = some kind
    · exact (hown c hc).imp_right (Or.imp_left (pending_of_notice kind))
    · refine .inl (contents_congr hstyle fun other hother => hothers other fun heq => hc ?_)
      rw [hother, heq]

private theorem sequence_noted {d : SequenceDiagram}
    (h : s.sequence.Noted SequenceDiagram.rules id d) :
    Noted dropped s { s with sequence := d } := by
  refine noted_of_diagram .sequence rfl rfl (fun other hne => ?_) h.kept fun c hc => ?_
  · cases other <;> first | rfl | exact absurd rfl hne
  · cases c with
    | actors => exact h.names.imp_right .inl
    | messages => exact h.edges.imp_right .inl
    | _ => cases hc

private theorem classes_noted {d : ClassDiagram}
    (h : s.classes.Noted ClassDiagram.rules ClassRecord.head d)
    (hattributes : s.classes.MembersNoted ClassRecord.attributes .classAttributes d ∨
      .classAttributes ∈ dropped)
    (hmethods : s.classes.MembersNoted ClassRecord.methods .classMethods d ∨
      .classMethods ∈ dropped) : Noted dropped s { s with classes := d } := by
  refine noted_of_diagram .classes rfl rfl (fun other hne => ?_) h.kept fun c hc => ?_
  · cases other <;> first | rfl | exact absurd rfl hne
  · cases c with
    | classes => exact h.nodes.imp_right .inl
    | classAttributes => exact or_assoc.mp hattributes
    | classMethods => exact or_assoc.mp hmethods
    | classRelationships => exact h.edges.imp_right .inl
    | _ => cases hc

private theorem useCase_noted {d : UseCaseDiagram} (h : s.useCase.Noted d) :
    Noted dropped s { s with useCase := d } := by
  refine noted_of_diagram .useCase rfl rfl (fun other hne => ?_) h.kept fun c hc => ?_
  · cases other <;> first | rfl | exact absurd rfl hne
  · cases c with
    | useCaseActors => exact h.actors.imp_right .inl
    | useCases => exact h.useCases.imp_right .inl
    | useCaseLinks => exact h.links.imp_right .inl
    | _ => cases hc

private theorem entity_noted {d : EntityDiagram}
    (h : s.entity.Noted EntityDiagram.rules EntityRecord.head d)
    (hattributes : s.entity.MembersNoted EntityRecord.attributes .entityAttributes d ∨
      .entityAttributes ∈ dropped) : Noted dropped s { s with entity := d } := by
  refine noted_of_diagram .entity rfl rfl (fun other hne => ?_) h.kept fun c hc => ?_
  · cases other <;> first | rfl | exact absurd rfl hne
  · cases c with
    | entities => exact h.nodes.imp_right .inl
    | entityAttributes => exact or_assoc.mp hattributes
    | erRelationships => exact h.edges.imp_right .inl
    | _ => cases hc

private theorem activity_noted {d : FlowDiagram}
    (h : s.activity.Noted FlowDiagram.activityRules id d) :
    Noted dropped s { s with activity := d } := by
  refine noted_of_diagram .activity rfl rfl (fun other hne => ?_) h.kept fun c hc => ?_
  · cases other <;> first | rfl | exact absurd rfl hne
  · cases c with
    | activities => exact h.names.imp_right .inl
    | activityFlows => exact h.edges.imp_right .inl
    | _ => cases hc

private theorem component_noted {d : FlowDiagram}
    (h : s.component.Noted FlowDiagram.componentRules id d) :
    Noted dropped s { s with component := d } := by
  refine noted_of_diagram .component rfl rfl (fun other hne => ?_) h.kept fun c hc => ?_
  · cases other <;> first | rfl | exact absurd rfl hne
  · cases c with
    | components => exact h.names.imp_right .inl
    | componentDependencies => exact h.edges.imp_right .inl
    | _ => cases hc

private theorem state_noted {d : StateDiagram} (h : s.state.Noted StateDiagram.rules id d) :
    Noted dropped s { s with state := d } := by
  refine noted_of_diagram .state rfl rfl (fun other hne => ?_) h.kept fun c hc => ?_
  · cases other <;> first | rfl | exact absurd rfl hne
  · cases c with
    | states => exact h.names.imp_right .inl
    | stateTransitions => exact h.edges.imp_right .inl
    | _ => cases hc

private theorem style_noted {style : Style} : Noted dropped s
    { s with style, styleChanges := notice s.styleChanges [.style] } := by
  constructor
  · intro c hc
    rcases mem_pendingChanges.mp hc with h | ⟨kind, h⟩
    · exact mem_pendingChanges.mpr (.inl (mem_notice.mpr (.inl h)))
    · refine pending_of_notice kind ?_
      cases kind <;> exact h
  · intro c
    cases c with
    | style =>
      exact .inr (.inl (mem_pendingChanges.mpr (.inl (mem_notice.mpr (.inr List.mem_cons_self)))))
    | _ => exact .inl rfl

private theorem setKind_noted (kind : Kind) : Noted dropped s (s.setKind kind) := by
  rw [setKind]
  by_cases h : s.kind = kind
  · rw [if_pos h]
    exact ⟨List.Subset.refl _, fun _ => .inl rfl⟩
  · rw [if_neg h]
    exact ⟨List.Subset.refl _, fun c => .inl (by cases c <;> rfl)⟩

private theorem Noted.epoch (h : Noted dropped { s with epoch := s.epoch + 1 } s') :
    Noted dropped s s' := by
  refine ⟨h.kept, fun c => ?_⟩
  have hsame : contents { s with epoch := s.epoch + 1 } c = s.contents c := by cases c <;> rfl
  rw [← hsame]
  exact h.noted c

private theorem clear_noted : Noted Edit.clear.discards s s.clear := by
  apply Noted.epoch
  rw [clear]
  cases s.kind with
  | sequence => exact sequence_noted Graph.clear_noted
  | classes =>
    exact classes_noted Graph.clear_noted (.inr (by simp [Edit.discards]))
      (.inr (by simp [Edit.discards]))
  | useCase => exact useCase_noted UseCaseDiagram.clear_noted
  | entity => exact entity_noted Graph.clear_noted (.inr (by simp [Edit.discards]))
  | activity => exact activity_noted Graph.clear_noted
  | component => exact component_noted Graph.clear_noted
  | state => exact state_noted Graph.clear_noted

private theorem effect_noted (hs : s.Sound) (h : edit.Effect s s') : Noted edit.discards s s' := by
  cases edit with
  | sequence edit =>
    obtain ⟨d, hd, rfl⟩ := h
    exact sequence_noted hd.noted
  | classes edit =>
    obtain ⟨d, hd, rfl⟩ := h
    refine classes_noted (hd.noted hs.classes.keys) ?_ ?_
    · cases hedit : edit.removesClass with
      | false => exact .inl (hd.attributesNoted hs.classes.keys hedit)
      | true =>
        cases edit <;> cases hedit
        exact .inr (by simp [Edit.discards])
    · cases hedit : edit.removesClass with
      | false => exact .inl (hd.methodsNoted hs.classes.keys hedit)
      | true =>
        cases edit <;> cases hedit
        exact .inr (by simp [Edit.discards])
  | useCase edit =>
    obtain ⟨d, hd, rfl⟩ := h
    exact useCase_noted hd.noted
  | entity edit =>
    obtain ⟨d, hd, rfl⟩ := h
    refine entity_noted (hd.noted hs.entity.keys) ?_
    cases hedit : edit.removesEntity with
    | false => exact .inl (hd.attributesNoted hedit)
    | true =>
      cases edit <;> cases hedit
      exact .inr (by simp [Edit.discards])
  | activity edit =>
    obtain ⟨d, hd, rfl⟩ := h
    exact activity_noted hd.noted
  | component edit =>
    obtain ⟨d, hd, rfl⟩ := h
    exact component_noted hd.noted
  | state edit =>
    obtain ⟨d, hd, rfl⟩ := h
    exact state_noted hd.noted
  | style edit =>
    obtain ⟨style, -, rfl⟩ := h
    exact style_noted
  | setKind kind =>
    cases h
    exact setKind_noted kind
  | clear =>
    cases h
    exact clear_noted

private theorem after_noted (hs : s.Sound) (edit : Edit) :
    Noted edit.discards s ((apply edit).after s) := by
  rcases (apply_effects edit).after_cases s with h | h
  · rw [h]
    exact ⟨List.Subset.refl _, fun _ => .inl rfl⟩
  · exact effect_noted hs h

private theorem mem_pendingChanges_congr (hstyle : s'.styleChanges = s.styleChanges)
    (hkinds : ∀ kind, c ∈ s'.notices kind ↔ c ∈ s.notices kind) :
    c ∈ s'.pendingChanges ↔ c ∈ s.pendingChanges := by
  rw [mem_pendingChanges, mem_pendingChanges, hstyle]
  exact or_congr_right (exists_congr hkinds)

private theorem clear_silent (h : c ∈ Edit.clear.discards) :
    c ∈ s.clear.pendingChanges ↔ c ∈ s.pendingChanges := by
  have hc : c = .classAttributes ∨ c = .classMethods ∨ c = .entityAttributes := by
    simpa [Edit.discards] using h
  refine mem_pendingChanges_congr clear_styleChanges fun kind => ?_
  by_cases hkind : s.kind = kind
  · subst hkind
    rw [clear]
    cases s.kind <;> refine mem_notice.trans (or_iff_left ?_) <;>
      rcases hc with rfl | rfl | rfl <;> decide
  · rw [notices_congr (clear_diagram_of_ne hkind)]

/-- Members that go away with their records are not noted by the edit that removes the records. -/
theorem Drops.silent (h : s.Drops c edit) :
    c ∈ ((apply edit).after s).pendingChanges ↔ c ∈ s.pendingChanges := by
  obtain ⟨hc, -⟩ := h
  rcases (apply_effects edit).after_cases s with hs | heffect
  · rw [hs]
  · generalize (apply edit).after s = s' at heffect
    cases edit with
    | clear =>
      cases heffect
      exact clear_silent hc
    | classes edit =>
      cases edit with
      | removeClass id =>
        obtain ⟨d, ⟨-, rfl⟩, rfl⟩ := heffect
        have hc : c = .classAttributes ∨ c = .classMethods := by simpa [Edit.discards] using hc
        refine mem_pendingChanges_congr rfl fun kind => ?_
        cases kind with
        | classes =>
          refine mem_notice.trans (or_iff_left ?_)
          rcases hc with rfl | rfl <;> decide
        | _ => exact Iff.rfl
      | _ => cases hc
    | entity edit =>
      cases edit with
      | removeEntity id =>
        obtain ⟨d, ⟨-, rfl⟩, rfl⟩ := heffect
        have hc : c = .entityAttributes := by simpa [Edit.discards] using hc
        refine mem_pendingChanges_congr rfl fun kind => ?_
        cases kind with
        | entity =>
          refine mem_notice.trans (or_iff_left ?_)
          rw [hc]
          decide
        | _ => exact Iff.rfl
      | _ => cases hc
    | _ => cases hc

private theorem edited_kept (hs : s.Sound) (edits : List Edit) :
    s.pendingChanges ⊆ (s.edited edits).pendingChanges := by
  induction edits generalizing s with
  | nil => exact List.Subset.refl _
  | cons edit edits ih =>
    exact List.Subset.trans (after_noted hs edit).kept (ih (apply_keeps edit s hs))

/-- A collection that changes in a run is noted in the end, unless some edit of the run drops
something in it. -/
private theorem edited_noted (hs : s.Sound) (edits : List Edit) (c : Collection) :
    (s.edited edits).contents c = s.contents c ∨ c ∈ (s.edited edits).pendingChanges ∨
      ∃ earlier edit later, edits = earlier ++ edit :: later ∧ (s.edited earlier).Drops c edit := by
  induction edits generalizing s with
  | nil => exact .inl rfl
  | cons edit edits ih =>
    have hafter : ((apply edit).after s).Sound := apply_keeps edit s hs
    rw [edited_cons]
    by_cases hsame : ((apply edit).after s).contents c = s.contents c
    · rcases ih hafter with h | h | ⟨earlier, next, later, rfl, h⟩
      · exact .inl (h.trans hsame)
      · exact .inr (.inl h)
      · exact .inr (.inr ⟨edit :: earlier, next, later, rfl, h⟩)
    · rcases (after_noted hs edit).noted c with h | h | h
      · exact absurd h hsame
      · exact .inr (.inl (edited_kept hafter edits h))
      · exact .inr (.inr ⟨[], edit, edits, rfl, h, hsame⟩)

/-- Whatever was done before the notices were taken, and whatever is tried after that: the notices
name each collection that is not what it was, except where the removal of a class or an entity or a
clearing has taken members away with the records that held them. -/
theorem changes_noted (style : Style) (before : List Operation) (edits : List Edit)
    (c : Collection) :
    let s := (run { style } before).takeChanges.2
    let s' := s.edited edits
    s'.contents c ≠ s.contents c → c ∈ s'.takeChanges.1 ∨
      ∃ earlier edit later, edits = earlier ++ edit :: later ∧ (s.edited earlier).Drops c edit := by
  intro s s' hne
  have hs : s.Sound := takeChanges_sound (run_sound (initial_sound style) before)
  exact (edited_noted hs edits c).resolve_left hne

/-- A relationship that went away with a class is noted, also when the class is added again. -/
theorem changes_noted_relationship :
    let before : List Operation := [.edit (.classes (.addClass "A" false)),
      .edit (.classes (.addClass "B" false)),
      .edit (.classes (.addRelationship none none .association "has"))]
    let edits : List Edit := [.classes (.removeClass ⟨.classes, 1⟩),
      .classes (.addClass "B" false)]
    let s := (run {} before).takeChanges.2
    let s' := s.edited edits
    s'.contents .classRelationships ≠ s.contents .classRelationships ∧
      (.classRelationships ∈ s'.takeChanges.1 ∨ ∃ earlier edit later,
        edits = earlier ++ edit :: later ∧ (s.edited earlier).Drops .classRelationships edit) := by
  intro before edits s s'
  have hne : s'.contents .classRelationships ≠ s.contents .classRelationships := by
    decide +kernel
  exact ⟨hne, changes_noted {} before edits .classRelationships hne⟩

/-- The attributes and methods of a removed class are gone and not noted. -/
theorem removed_members_not_noted :
    let before : List Operation := [.edit (.classes (.addClass "A" false)),
      .edit (.classes (.addAttribute ⟨.classes, 0⟩ { name := "x" })),
      .edit (.classes (.addMethod ⟨.classes, 0⟩ { name := "f" }))]
    let s := (run {} before).takeChanges.2
    let s' := s.edited [.classes (.removeClass ⟨.classes, 0⟩)]
    s'.contents .classAttributes ≠ s.contents .classAttributes ∧
      s'.contents .classMethods ≠ s.contents .classMethods ∧
      s'.takeChanges.1 = [.classes, .classRelationships] := by
  intro before s s'
  have hattributes : s'.contents .classAttributes ≠ s.contents .classAttributes := by
    decide +kernel
  have hmethods : s'.contents .classMethods ≠ s.contents .classMethods := by decide +kernel
  have hnotices : s'.takeChanges.1 = [.classes, .classRelationships] := by decide +kernel
  exact ⟨hattributes, hmethods, hnotices⟩

end Store

end UmlDiagrams
