import UmlDiagrams.Proofs.Stateful
/-!
# Simulations

A computation simulates another one, along a relation between their states, if from related states
both end alike: with an answer and its image or with an error and its image, and in related states.
-/

namespace UmlDiagrams

def outcomeImage {ε ε' α α' : Type} (error : ε → ε') (reply : α → α') (outcome : Except ε α) :
    Except ε' α' :=
  (outcome.map reply).mapError error

theorem outcomeImage_bind {ε ε' α α' β β' : Type} {error : ε → ε'} {reply : α → α'}
    {reply' : β → β'} {x : Except ε α} {f : α → Except ε β} {f' : α' → Except ε' β'}
    (hf : ∀ a, f' (reply a) = outcomeImage error reply' (f a)) :
    outcomeImage error reply x >>= f' = outcomeImage error reply' (x >>= f) := by
  cases x with
  | ok a => exact hf a
  | error e => rfl

namespace Stateful

variable {ε ε' σ σ' τ τ' α α' β β' : Type} {Rel : σ → τ → Prop} {error : ε → ε'} {reply : α → α'}
  {x : Stateful ε σ α} {y : Stateful ε' τ α'} {s : σ} {t : τ}

inductive EndsAlike (Rel : σ → τ → Prop) (error : ε → ε') (reply : α → α') :
    EStateM.Result ε σ α → EStateM.Result ε' τ α' → Prop where
  | ok (a : α) {s : σ} {t : τ} (h : Rel s t) : EndsAlike Rel error reply (.ok a s) (.ok (reply a) t)
  | error (e : ε) {s : σ} {t : τ} (h : Rel s t) :
    EndsAlike Rel error reply (.error e s) (.error (error e) t)

/-- On `t`, the computation `y` does what `x` does on `s`. -/
def Simulates (Rel : σ → τ → Prop) (error : ε → ε') (reply : α → α') (x : Stateful ε σ α)
    (y : Stateful ε' τ α') (s : σ) (t : τ) : Prop :=
  EndsAlike Rel error reply (x.run s) (y.run t)

namespace Simulates

theorem outcome_eq (h : Simulates Rel error reply x y s t) :
    y.outcome t = outcomeImage error reply (x.outcome s) := by
  rw [Simulates] at h
  rw [outcome, outcome]
  generalize x.run s = result, y.run t = result' at h ⊢
  cases h <;> rfl

theorem related (h : Simulates Rel error reply x y s t) : Rel (x.after s) (y.after t) := by
  rw [Simulates] at h
  rw [after, after]
  generalize x.run s = result, y.run t = result' at h ⊢
  cases h <;> assumption

theorem answer {reply' : β → β'} {f : α → β} {f' : α' → β'}
    (h : Simulates Rel error reply x y s t) (hf : ∀ a, f' (reply a) = reply' (f a)) :
    Simulates Rel error reply' (x >>= fun a => pure (f a)) (y >>= fun a => pure (f' a)) s t := by
  rw [Simulates] at h ⊢
  rw [EStateM.run_bind, EStateM.run_bind]
  generalize x.run s = result, y.run t = result' at h ⊢
  cases h with
  | ok a h =>
    dsimp only
    rw [hf]
    exact .ok (f a) h
  | error e h => exact .error e h

theorem check {check : Except ε β} {check' : Except ε' β'} {image : β → β'}
    {f : β → Stateful ε σ α} {f' : β' → Stateful ε' τ α'} (h : Rel s t)
    (hcheck : check' = outcomeImage error image check)
    (hf : ∀ b, Simulates Rel error reply (f b) (f' (image b)) s t) :
    Simulates Rel error reply (liftM check >>= f) (liftM check' >>= f') s t := by
  rw [Simulates, EStateM.run_bind, EStateM.run_bind, run_liftM, run_liftM, hcheck]
  cases check with
  | ok b => exact hf b
  | error e => exact .error e h

theorem within {part : σ' → σ} {put : σ' → σ → σ'} {part' : τ' → τ} {put' : τ' → τ → τ'}
    {Rel' : σ' → τ' → Prop} {s : σ'} {t : τ'}
    (h : Simulates Rel error reply x y (part s) (part' t))
    (hput : ∀ u v, Rel u v → Rel' (put s u) (put' t v)) :
    Simulates Rel' error reply (within part put x) (within part' put' y) s t := by
  rw [Simulates] at h ⊢
  rw [run_within, run_within]
  generalize x.run (part s) = result, y.run (part' t) = result' at h ⊢
  cases h with
  | ok a h => exact .ok a (hput _ _ h)
  | error e h => exact .error e (hput _ _ h)

end Simulates

end Stateful

end UmlDiagrams
