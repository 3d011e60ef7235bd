import UmlDiagrams.Stateful

namespace UmlDiagrams.Stateful

variable {ε σ τ α β : Type} {I : σ → Prop} {x : Stateful ε σ α}

def Keeps (I : σ → Prop) (x : Stateful ε σ α) : Prop :=
  ∀ s, I s → I (x.after s)

theorem after_of_run_ok {s s' : σ} {a : α} (h : x.run s = .ok a s') : x.after s = s' := by
  rw [after, h]

private theorem after_of_run_error {s s' : σ} {e : ε} (h : x.run s = .error e s') :
    x.after s = s' := by
  rw [after, h]

private theorem Keeps.pure (a : α) : Keeps I (pure a : Stateful ε σ α) :=
  fun _ hs => hs

theorem Keeps.modify {f : σ → σ} (hf : ∀ s, I s → I (f s)) :
    Keeps I (modify f : Stateful ε σ Unit) :=
  hf

theorem Keeps.bind {f : α → Stateful ε σ β} (hx : Keeps I x) (hf : ∀ a, Keeps I (f a)) :
    Keeps I (x >>= f) := by
  intro s hs
  have h := hx s hs
  rw [after, EStateM.run_bind]
  cases hr : x.run s with
  | ok a s' => exact hf a s' (after_of_run_ok hr ▸ h)
  | error e s' => exact after_of_run_error hr ▸ h

theorem Keeps.answer (hx : Keeps I x) (f : α → β) :
    Keeps I (x >>= fun a => Pure.pure (f a)) :=
  hx.bind fun _ => Keeps.pure _

theorem Keeps.check {check : Except ε α} {f : α → Stateful ε σ β}
    (hf : ∀ a, check = .ok a → Keeps I (f a)) : Keeps I (liftM check >>= f) := by
  intro s hs
  rw [after, EStateM.run_bind, run_liftM]
  cases hc : check with
  | ok a => exact hf a hc s hs
  | error e => exact hs

theorem run_within (part : σ → τ) (put : σ → τ → σ) (x : Stateful ε τ α) (s : σ) :
    EStateM.run (within part put x) s =
      match x.run (part s) with
      | .ok a t => .ok a (put s t)
      | .error e t => .error e (put s t) := by
  rfl

theorem after_within (part : σ → τ) (put : σ → τ → σ) (x : Stateful ε τ α) (s : σ) :
    (within part put x).after s = put s (x.after (part s)) := by
  rw [after, after, run_within]
  cases x.run (part s) <;> rfl

theorem outcome_within (part : σ → τ) (put : σ → τ → σ) (x : Stateful ε τ α) (s : σ) :
    (within part put x).outcome s = x.outcome (part s) := by
  rw [outcome, outcome, run_within]
  cases x.run (part s) <;> rfl

theorem outcome_answer (x : Stateful ε σ α) (f : α → β) (s : σ) :
    Stateful.outcome (x >>= fun a => Pure.pure (f a)) s = (x.outcome s).map f := by
  rw [outcome, outcome, EStateM.run_bind]
  cases x.run s <;> rfl

theorem outcome_of_answer_error {f : α → β} {s : σ} {e : ε}
    (h : Stateful.outcome (x >>= fun a => Pure.pure (f a)) s = .error e) :
    x.outcome s = .error e := by
  rw [outcome_answer] at h
  cases hx : x.outcome s with
  | ok a =>
    rw [hx] at h
    cases h
  | error e' =>
    rw [hx] at h
    cases h
    rfl

theorem after_answer (x : Stateful ε σ α) (f : α → β) (s : σ) :
    Stateful.after (x >>= fun a => Pure.pure (f a)) s = x.after s := by
  rw [after, after, EStateM.run_bind]
  cases x.run s <;> rfl

end UmlDiagrams.Stateful
