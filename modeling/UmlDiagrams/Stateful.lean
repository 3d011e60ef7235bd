/-!
# Computations with a state

A computation runs on a state and ends with an answer or an error. It leaves a state in both cases:
what was changed before an error stays changed.
-/

namespace UmlDiagrams

/-- A computation on states in `σ` that answers with an `α` or fails with an `ε`. -/
abbrev Stateful (ε σ α : Type) := EStateM ε σ α

namespace Stateful

variable {ε σ τ α β : Type}

/-- A check that looks at no state. -/
instance : MonadLift (Except ε) (Stateful ε σ) where
  monadLift check := fun s =>
    match check with
    | .ok a => .ok a s
    | .error e => .error e s

def outcome (x : Stateful ε σ α) (s : σ) : Except ε α :=
  match x.run s with
  | .ok a _ => .ok a
  | .error e _ => .error e

def after (x : Stateful ε σ α) (s : σ) : σ :=
  match x.run s with
  | .ok _ s' => s'
  | .error _ s' => s'

def within (part : σ → τ) (put : σ → τ → σ) (x : Stateful ε τ α) : Stateful ε σ α := fun s =>
  match x.run (part s) with
  | .ok a t => .ok a (put s t)
  | .error e t => .error e (put s t)

@[simp] theorem run_map (f : α → β) (x : Stateful ε σ α) (s : σ) :
    EStateM.run (f <$> x) s =
      match x.run s with
      | .ok a s' => .ok (f a) s'
      | .error e s' => .error e s' := by
  rfl

@[simp] theorem run_liftM (check : Except ε α) (s : σ) :
    EStateM.run (liftM check : Stateful ε σ α) s =
      match check with
      | .ok a => .ok a s
      | .error e => .error e s := by
  rfl

end Stateful

end UmlDiagrams
