import Mathlib.Logic.Equiv.Basic
import UmlDiagrams.Proofs.Source.Emptiness
import UmlDiagrams.Proofs.Store.Epoch
import UmlDiagrams.Proofs.Store.Records
import UmlDiagrams.Proofs.Store.Renumbered
/-!
# Empty diagrams are as good as new

Of what a diagram held, nothing outlasts a clearing but the count of identifiers. Once the later
identifiers are counted from the beginning again, a cleared diagram does what that of a new store
does.
-/

namespace UmlDiagrams

open Stateful UmlDiagrams.Graph

def Kind.other : Kind → Kind
  | sequence => classes
  | _ => sequence

private theorem Kind.other_ne (kind : Kind) : kind.other ≠ kind := by
  cases kind <;> decide

namespace Id

/-- Counts the identifiers of a kind from `base` on. Those before `base` become the first ones of
another kind, whose own identifiers make room for them. -/
def recount (kind : Kind) (base : Nat) (id : Id) : Id :=
  if id.kind = kind then
    if id.serial < base then ⟨kind.other, id.serial⟩ else ⟨kind, id.serial - base⟩
  else if id.kind = kind.other then ⟨kind.other, base + id.serial⟩
  else id

def uncount (kind : Kind) (base : Nat) (id : Id) : Id :=
  if id.kind = kind then ⟨kind, base + id.serial⟩
  else if id.kind = kind.other then
    if id.serial < base then ⟨kind, id.serial⟩ else ⟨kind.other, id.serial - base⟩
  else id

private theorem uncount_recount (kind : Kind) (base : Nat) (id : Id) :
    uncount kind base (recount kind base id) = id := by
  obtain ⟨k, n⟩ := id
  have hother := kind.other_ne
  by_cases hk : k = kind
  · subst hk
    by_cases hn : n < base
    · simp [recount, uncount, hn, hother]
    · simp [recount, uncount, hn, Nat.add_sub_cancel' (Nat.le_of_not_lt hn)]
  · by_cases hk' : k = kind.other
    · simp [recount, uncount, hk', hother]
    · simp [recount, uncount, hk, hk']

private theorem recount_uncount (kind : Kind) (base : Nat) (id : Id) :
    recount kind base (uncount kind base id) = id := by
  obtain ⟨k, n⟩ := id
  have hother := kind.other_ne
  by_cases hk : k = kind
  · simp [recount, uncount, hk]
  · by_cases hk' : k = kind.other
    · by_cases hn : n < base
      · simp [recount, uncount, hn, hk', hother]
      · simp [recount, uncount, hn, hk', hother, Nat.add_sub_cancel' (Nat.le_of_not_lt hn)]
    · simp [recount, uncount, hk, hk']

def recounting (kind : Kind) (base : Nat) : Equiv.Perm Id where
  toFun := recount kind base
  invFun := uncount kind base
  left_inv := uncount_recount kind base
  right_inv := recount_uncount kind base

private theorem recounting_base_add (kind : Kind) (base n : Nat) :
    recounting kind base ⟨kind, base + n⟩ = ⟨kind, n⟩ := by
  simp [recounting, recount]

end Id

private theorem Likeness.alike_empty {κ κ' ν ν' ε ε' : Type} {R : Rules κ ν ε} {R' : Rules κ' ν' ε'}
    {L : Likeness R R'} {g : Graph κ ν ε} (hempty : g.isEmpty)
    (hids : ∀ n, L.labels.record ⟨R.kind, g.issued + n⟩ = ⟨R'.kind, n⟩)
    (hnoted : L.Noted g.changes []) : L.Alike g {} := by
  obtain ⟨hnodes, hedges⟩ := Bool.and_eq_true_iff.mp hempty
  refine ⟨?_, ?_, fun n => ?_, hnoted⟩
  · rw [List.isEmpty_iff.mp hnodes]
    rfl
  · rw [List.isEmpty_iff.mp hedges]
    rfl
  · rw [hids, Nat.zero_add]

private theorem UseCaseDiagram.alike_empty {f : Id → Id} {d : UseCaseDiagram} (hempty : d.isEmpty)
    (hids : ∀ n, f ⟨.useCase, d.issued + n⟩ = ⟨.useCase, n⟩) : Alike f d {} := by
  simp only [isEmpty, Bool.and_eq_true, List.isEmpty_iff] at hempty
  obtain ⟨⟨hactors, huseCases⟩, hlinks⟩ := hempty
  refine ⟨hactors.symm, huseCases.symm, ?_, fun n => ?_⟩
  · rw [hlinks]
    rfl
  · rw [hids, Nat.zero_add]

namespace Store

variable {s : Store} {kind : Kind}

private theorem alikeAt_new (hactive : s.kind = kind) (hempty : s.isEmpty kind) :
    AlikeAt (Id.recounting kind (s.issued kind)).injective kind s { kind, style := s.style } := by
  refine ⟨hactive.symm, rfl, ?_⟩
  have hids := Id.recounting_base_add kind (s.issued kind)
  cases kind with
  | useCase => exact UseCaseDiagram.alike_empty hempty hids
  | _ => exact Likeness.alike_empty hempty hids trivial

private theorem setKind_isEmpty : (s.setKind kind).isEmpty kind = s.isEmpty kind := by
  rw [setKind]
  by_cases h : s.kind = kind
  · rw [if_pos h]
  · rw [if_neg h]
    cases kind <;> rfl

private theorem setKind_of_kind_eq (h : s.kind = kind) : s.setKind kind = s := by
  rw [← h, setKind_self]

private theorem source_of_isEmpty (hempty : s.isEmpty kind) :
    (s.setKind kind).source = ({ kind, style := s.style } : Store).source := by
  rw [← setKind_isEmpty] at hempty
  have hsource := (alikeAt_new setKind_kind hempty).source
  rw [setKind_of_kind_eq rfl, setKind_of_kind_eq setKind_kind, setKind_style] at hsource
  exact hsource.symm

private theorem clear_isEmpty : s.clear.isEmpty s.kind := by
  rw [clear]
  cases s.kind <;> rfl

private theorem clear_issued (kind : Kind) : s.clear.issued kind = s.issued kind := by
  rw [clear]
  cases s.kind <;> cases kind <;> rfl

/-- A diagram is empty exactly if its source is that of a new store. A clearing empties the active
diagram and leaves the others and the style. Whatever is tried after that, the diagram has the
source of a new one on which the same is tried, and its edits are accepted or rejected like those of
the new one, up to identifiers. -/
theorem cleared_as_new (style : Style) (operations : List Operation) :
    let s := run { style } operations
    let cleared := (apply .clear).after s
    let new : Store := { kind := s.kind, style := s.style }
    (∀ kind, s.isEmpty kind ↔
      (s.setKind kind).source = ({ kind, style := s.style } : Store).source) ∧
    (cleared.kind = s.kind ∧ cleared.isEmpty s.kind ∧ cleared.source = new.source) ∧
    (∀ kind, kind ≠ s.kind → cleared.diagram kind = s.diagram kind) ∧ cleared.style = s.style ∧
    ∃ ρ : Equiv.Perm Id, (∀ n, ρ ⟨s.kind, s.issued s.kind + n⟩ = ⟨s.kind, n⟩) ∧
      ∀ later : List Operation,
        let s' := cleared.run later
        let t' := new.run (later.map (·.renumbered ρ))
        (s'.setKind s.kind).source = (t'.setKind s.kind).source ∧
        ∀ edit : Edit, edit.address s'.kind = some s.kind →
          (apply (edit.renumbered ρ)).outcome t' =
            outcomeImage (Relabeling.ofRecords ρ).rejection (Relabeling.ofRecords ρ).reply
              ((apply edit).outcome s') := by
  intro s cleared new
  have hs : s.Sound := reachable_sound style operations
  have hkind : cleared.kind = s.kind := clear_kind
  have hempty : cleared.isEmpty s.kind := clear_isEmpty
  have halike := alikeAt_new hkind hempty
  rw [show cleared.style = s.style from clear_style] at halike
  refine ⟨fun kind => ⟨source_of_isEmpty, isEmpty_of_source hs⟩, ⟨hkind, hempty, ?_⟩,
    fun kind h => clear_diagram_of_ne h.symm, clear_style, ?_⟩
  · have hsource := halike.source
    rw [setKind_of_kind_eq rfl, setKind_of_kind_eq hkind] at hsource
    exact hsource.symm
  · refine ⟨Id.recounting s.kind (cleared.issued s.kind), fun n => ?_, fun later => ?_⟩
    · rw [show cleared.issued s.kind = s.issued s.kind from clear_issued s.kind,
        Id.recounting_base_add]
    · have hlater := halike.run later
      exact ⟨hlater.source.symm, fun edit hedit => (apply_simulates hlater hedit).outcome_eq⟩

/-- Two classes and their relationship are cleared away, and the classes are added again. The first
of them has a name that was taken before, and the old identifier of the other is not known any more,
as in a new store. -/
theorem cleared_as_new_classes :
    let operations : List Operation := [.edit (.setKind .classes),
      .edit (.classes (.addClass "A" false)), .edit (.classes (.addClass "B" false)),
      .edit (.classes (.addRelationship none none .association "has"))]
    let later : List Operation :=
      [.edit (.classes (.addClass "B" true)), .edit (.classes (.addClass "A" false))]
    let edit : Edit :=
      .classes (.addRelationship (some ⟨.classes, 3⟩) (some ⟨.classes, 0⟩) .association "has")
    let s := run {} operations
    let s' := ((apply .clear).after s).run later
    edit.address s'.kind = some s.kind ∧ ∃ ρ : Equiv.Perm Id, ρ ⟨.classes, 3⟩ = ⟨.classes, 0⟩ ∧
      let t' := run { kind := s.kind, style := s.style } (later.map (·.renumbered ρ))
      (s'.setKind s.kind).source = (t'.setKind s.kind).source ∧
        (apply (edit.renumbered ρ)).outcome t' =
          .error (.unknownEndpoint .classes (.id (ρ ⟨.classes, 0⟩))) := by
  intro operations later edit s s'
  have haddress : edit.address s'.kind = some s.kind := by decide +kernel
  have hrefused : (apply edit).outcome s' =
      .error (.unknownEndpoint .classes (.id ⟨.classes, 0⟩)) := by decide +kernel
  have hkind : s.kind = .classes := by decide +kernel
  have hissued : s.issued .classes = 3 := by decide +kernel
  obtain ⟨-, -, -, -, ρ, hρ, hlater⟩ := cleared_as_new {} operations
  have hfirst := hρ 0
  rw [hkind, hissued] at hfirst
  obtain ⟨hsource, houtcome⟩ := hlater later
  refine ⟨haddress, ρ, hfirst, hsource, ?_⟩
  rw [houtcome edit haddress, hrefused]
  rfl

end Store

end UmlDiagrams
