import UmlDiagrams.Proofs.Stateful

namespace UmlDiagrams.Stateful

variable {ε σ α β : Type} {x : Stateful ε σ α} {s : σ} {C C' : Prop} {F F' : σ → Prop}
  {E E' : ε → Prop}

/-- In `s`, `x` succeeds exactly if `C` holds. A success leaves a state with `F`, a failure has an
error with `E`. -/
@[irreducible] def Decides (x : Stateful ε σ α) (s : σ) (C : Prop) (F : σ → Prop)
    (E : ε → Prop) : Prop :=
  match x.run s with
  | .ok _ s' => C ∧ F s'
  | .error e _ => ¬ C ∧ E e

theorem decides_of_run_ok {a : α} {s' : σ} (h : x.run s = .ok a s') (hC : C) (hF : F s') :
    Decides x s C F E := by
  rw [Decides, h]
  exact ⟨hC, hF⟩

theorem decides_of_run_error {e : ε} {s' : σ} (h : x.run s = .error e s') (hC : ¬ C) (hE : E e) :
    Decides x s C F E := by
  rw [Decides, h]
  exact ⟨hC, hE⟩

theorem Decides.of_run_eq {y : Stateful ε σ α} (h : Decides x s C F E) (hrun : y.run s = x.run s) :
    Decides y s C F E := by
  rw [Decides] at h ⊢
  rw [hrun]
  exact h

theorem Decides.imp (h : Decides x s C F E) (hC : C ↔ C') (hF : ∀ s', C → F s' → F' s')
    (hE : ∀ e, ¬ C → E e → E' e) : Decides x s C' F' E' := by
  rw [Decides] at h ⊢
  cases hr : x.run s with
  | ok a s' =>
    rw [hr] at h
    exact ⟨hC.mp h.1, hF s' h.1 h.2⟩
  | error e s' =>
    rw [hr] at h
    exact ⟨fun hc => h.1 (hC.mpr hc), hE e h.1 h.2⟩

private theorem Decides.bind {f : α → Stateful ε σ β} (hx : Decides x s C F E)
    (hf : ∀ a s', C → F s' → Decides (f a) s' C' F' E) :
    Decides (x >>= f) s (C ∧ C') F' E := by
  rw [Decides] at hx
  cases hr : x.run s with
  | ok a s' =>
    rw [hr] at hx
    have hnext := hf a s' hx.1 hx.2
    rw [Decides] at hnext ⊢
    rw [EStateM.run_bind, hr]
    dsimp only
    cases hfr : (f a).run s' with
    | ok b s'' =>
      rw [hfr] at hnext
      exact ⟨⟨hx.1, hnext.1⟩, hnext.2⟩
    | error e s'' =>
      rw [hfr] at hnext
      exact ⟨fun hc => hnext.1 hc.2, hnext.2⟩
  | error e s' =>
    rw [hr] at hx
    have herror : (x >>= f).run s = .error e s' := by
      rw [EStateM.run_bind, hr]
    exact decides_of_run_error herror (fun hc => hx.1 hc.1) hx.2

theorem Decides.answer (hx : Decides x s C F E) (f : α → β) :
    Decides (x >>= fun a => pure (f a)) s C F E := by
  have hbind : Decides (x >>= fun a => pure (f a)) s (C ∧ True) F E :=
    hx.bind fun _ _ _ hF => decides_of_run_ok rfl trivial hF
  exact hbind.imp (by simp) (fun _ _ h => h) fun _ _ h => h

theorem Decides.within {τ : Type} {part : σ → τ} {put : σ → τ → σ} {x : Stateful ε τ α}
    {F : τ → Prop} {F' : σ → Prop} (h : Decides x (part s) C F E) (hF : ∀ t, F t → F' (put s t)) :
    Decides (within part put x) s C F' E := by
  rw [Decides] at h ⊢
  rw [run_within]
  cases hr : x.run (part s) with
  | ok a t =>
    rw [hr] at h
    exact ⟨h.1, hF t h.2⟩
  | error e t =>
    rw [hr] at h
    exact h

/-- What a computation comes to that fails exactly if there is a reason to refuse it, and then for
that reason. -/
theorem Decides.settled {refusal : Option ε}
    (h : Decides x s (refusal = none) F fun e => refusal = some e) :
    (∀ e, x.outcome s = .error e ↔ refusal = some e) ∧
      (refusal = none → (∃ a, x.outcome s = .ok a) ∧ F (x.after s)) := by
  rw [Decides] at h
  rw [outcome, after]
  cases hr : x.run s with
  | ok a s' =>
    rw [hr] at h
    refine ⟨fun e => iff_of_false (by simp) fun he => ?_, fun _ => ⟨⟨a, rfl⟩, h.2⟩⟩
    rw [h.1] at he
    cases he
  | error e s' =>
    rw [hr] at h
    refine ⟨fun e' => ?_, fun hnone => absurd hnone h.1⟩
    rw [h.2, Except.error.injEq, Option.some.injEq]

def inOrder : List (Stateful ε σ α) → Stateful ε σ Unit
  | [] => pure ()
  | x :: xs => do
    let _ ← x
    inOrder xs

private theorem inOrder_append (xs ys : List (Stateful ε σ α)) :
    inOrder (xs ++ ys) = inOrder xs >>= fun _ => inOrder ys := by
  induction xs with
  | nil => rfl
  | cons x xs ih => simp [inOrder, ih]

theorem decides_nil (hF : F s) (hC : C) :
    Decides (inOrder ([] : List (Stateful ε σ α))) s C F E :=
  decides_of_run_ok rfl hC hF

theorem Decides.cons {xs : List (Stateful ε σ α)} (hx : Decides x s C F E)
    (hxs : ∀ s', C → F s' → Decides (inOrder xs) s' C' F' E) :
    Decides (inOrder (x :: xs)) s (C ∧ C') F' E :=
  hx.bind fun _ s' hc hF => hxs s' hc hF

theorem Decides.append {xs ys : List (Stateful ε σ α)} (hx : Decides (inOrder xs) s C F E)
    (hys : ∀ s', C → F s' → Decides (inOrder ys) s' C' F' E) :
    Decides (inOrder (xs ++ ys)) s (C ∧ C') F' E := by
  rw [inOrder_append]
  exact hx.bind fun _ s' hc hF => hys s' hc hF

end UmlDiagrams.Stateful
