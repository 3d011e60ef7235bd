import UmlDiagrams.Proofs.Stateful
import UmlDiagrams.Store
/-!
# The epoch of a store

The epoch counts the clearings and the switches to another kind. Nothing else moves it, and while it
stands still the same kind stays active.
-/

namespace UmlDiagrams

open Stateful

/-- Whether an operation leaves another diagram to be shown than the one of the `active` kind as it
was: it is cleared, or another kind is made active. -/
def Operation.Outdates (active : Kind) : Operation → Prop
  | .edit .clear => True
  | .edit (.setKind kind) => kind ≠ active
  | _ => False

namespace Store

variable {s : Store}

private theorem setKind_of_ne {kind : Kind} (h : kind ≠ s.kind) :
    s.setKind kind = { s with kind, epoch := s.epoch + 1 } := by
  rw [setKind, if_neg h.symm]

theorem setKind_self : s.setKind s.kind = s := by
  rw [setKind, if_pos rfl]

private theorem clear_epoch : s.clear.epoch = s.epoch + 1 := by
  rw [clear]
  cases s.kind <;> rfl

/-- What may come after a store: while the epoch stands still, so does the kind. -/
def Follows (s s' : Store) : Prop :=
  (s'.kind = s.kind ∧ s'.epoch = s.epoch) ∨ s.epoch < s'.epoch

theorem Follows.epoch_le {s s' : Store} (h : s.Follows s') : s.epoch ≤ s'.epoch := by
  rcases h with ⟨-, h⟩ | h
  · exact Nat.le_of_eq h.symm
  · exact Nat.le_of_lt h

theorem setKind_follows (kind : Kind) : s.Follows (s.setKind kind) := by
  by_cases hk : kind = s.kind
  · rw [hk, setKind_self]
    exact .inl ⟨rfl, rfl⟩
  · rw [setKind_of_ne hk]
    exact .inr (Nat.lt_succ_self _)

theorem clear_follows : s.Follows s.clear :=
  .inr (clear_epoch ▸ Nat.lt_succ_self _)

theorem step_epoch_of_outdates {operation : Operation} (h : operation.Outdates s.kind) :
    (s.step operation).epoch = s.epoch + 1 := by
  cases operation with
  | takeChanges => exact h.elim
  | edit edit =>
    cases edit with
    | setKind kind => exact congrArg Store.epoch (setKind_of_ne h)
    | clear => exact clear_epoch
    | _ => exact h.elim

private theorem style_keeps (edit : StyleEdit) (kind : Kind) (epoch : Nat) :
    Keeps (fun s => s.kind = kind ∧ s.epoch = epoch) (apply (.style edit)) := by
  apply Keeps.bind
  · intro s h
    rw [after_within]
    exact h
  · intro _
    apply Keeps.answer
    apply Keeps.modify
    exact fun s h => h

theorem step_of_not_outdates {operation : Operation} (h : ¬ operation.Outdates s.kind) :
    (s.step operation).kind = s.kind ∧ (s.step operation).epoch = s.epoch := by
  cases operation with
  | takeChanges => exact ⟨rfl, rfl⟩
  | edit edit =>
    rw [step]
    cases edit with
    | style edit => exact style_keeps edit s.kind s.epoch s ⟨rfl, rfl⟩
    | setKind kind =>
      have hk : kind = s.kind := Classical.not_not.mp h
      have hstep : (apply (.setKind kind)).after s = s := by
        rw [hk]
        exact setKind_self
      rw [hstep]
      exact ⟨rfl, rfl⟩
    | clear => exact absurd trivial h
    | _ =>
      rw [apply, after_within]
      exact ⟨rfl, rfl⟩

theorem step_follows (operation : Operation) : s.Follows (s.step operation) := by
  by_cases h : operation.Outdates s.kind
  · exact .inr (step_epoch_of_outdates h ▸ Nat.lt_succ_self _)
  · exact .inl (step_of_not_outdates h)

end Store

end UmlDiagrams
