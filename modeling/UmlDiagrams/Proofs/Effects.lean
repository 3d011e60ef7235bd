import UmlDiagrams.Proofs.Stateful

namespace UmlDiagrams.Stateful

variable {ε σ τ α β : Type} {Refuses : α → Prop} {P Q : σ → σ → Prop} {x : Stateful ε σ α}

/-- How a computation may end on `s`: with a refusal and in `s`, or accepting and in a state that is
related to `s`. -/
inductive Ends (Refuses : α → Prop) (P : σ → σ → Prop) (s : σ) : EStateM.Result ε σ α → Prop where
  | failed (e : ε) : Ends Refuses P s (.error e s)
  | refused (a : α) (h : Refuses a) : Ends Refuses P s (.ok a s)
  | accepted (a : α) (s' : σ) (h : ¬ Refuses a) (hP : P s s') : Ends Refuses P s (.ok a s')

def Effects (Refuses : α → Prop) (P : σ → σ → Prop) (x : Stateful ε σ α) : Prop :=
  ∀ s, Ends Refuses P s (x.run s)

namespace Effects

theorem imp (h : Effects Refuses P x) (hPQ : ∀ s s', P s s' → Q s s') : Effects Refuses Q x := by
  intro s
  have hends := h s
  generalize x.run s = result at hends ⊢
  cases hends with
  | failed e => exact .failed e
  | refused a ha => exact .refused a ha
  | accepted a s' ha hP => exact .accepted a s' ha (hPQ s s' hP)

theorem and (hP : Effects Refuses P x) (hQ : Effects Refuses Q x) :
    Effects Refuses (fun s s' => P s s' ∧ Q s s') x := by
  intro s
  have hends := hP s
  have hends' := hQ s
  generalize x.run s = result at hends hends' ⊢
  cases hends with
  | failed e => exact .failed e
  | refused a ha => exact .refused a ha
  | accepted a s' ha hP =>
    cases hends' with
    | refused _ hr => exact absurd hr ha
    | accepted _ _ _ hQ => exact .accepted a s' ha ⟨hP, hQ⟩

theorem answer (h : Effects Refuses P x) {Refuses' : β → Prop} {f : α → β}
    (hf : ∀ a, Refuses' (f a) ↔ Refuses a) :
    Effects Refuses' P (x >>= fun a => pure (f a)) := by
  intro s
  have hends := h s
  rw [EStateM.run_bind]
  generalize x.run s = result at hends ⊢
  cases hends with
  | failed e => exact .failed e
  | refused a ha => exact .refused (f a) ((hf a).mpr ha)
  | accepted a s' ha hP => exact .accepted (f a) s' (fun hr => ha ((hf a).mp hr)) hP

theorem check {check : Except ε β} {f : β → Stateful ε σ α}
    (hf : ∀ b, check = .ok b → Effects Refuses P (f b)) :
    Effects Refuses P (liftM check >>= f) := by
  intro s
  rw [EStateM.run_bind, run_liftM]
  cases h : check with
  | ok b => exact hf b h s
  | error e => exact .failed e

theorem within {part : σ → τ} {put : σ → τ → σ} {P : τ → τ → Prop} {x : Stateful ε τ α}
    (hput : ∀ s, put s (part s) = s) (h : Effects Refuses P x) :
    Effects Refuses (fun s s' => ∃ t, P (part s) t ∧ s' = put s t) (within part put x) := by
  intro s
  have hends := h (part s)
  rw [run_within]
  generalize x.run (part s) = result at hends ⊢
  cases hends with
  | failed e =>
    simp only [hput]
    exact .failed e
  | refused a ha =>
    simp only [hput]
    exact .refused a ha
  | accepted a t ha hP => exact .accepted a (put s t) ha ⟨t, hP, rfl⟩

theorem unchanged (h : Effects Refuses P x) {s : σ}
    (hrefused : (∃ e, x.outcome s = .error e) ∨ ∃ a, Refuses a ∧ x.outcome s = .ok a) :
    x.after s = s := by
  have hends := h s
  rw [outcome] at hrefused
  rw [after]
  generalize x.run s = result at hends hrefused ⊢
  cases hends with
  | failed e => rfl
  | refused a ha => rfl
  | accepted a s' ha hP =>
    rcases hrefused with ⟨e, he⟩ | ⟨b, hb, he⟩
    · cases he
    · cases he
      exact absurd hb ha

theorem accepted (h : Effects Refuses P x) {s : σ} {a : α} (houtcome : x.outcome s = .ok a)
    (ha : ¬ Refuses a) : P s (x.after s) := by
  have hends := h s
  rw [outcome] at houtcome
  rw [after]
  generalize x.run s = result at hends houtcome ⊢
  cases hends with
  | failed e => cases houtcome
  | refused b hb =>
    cases houtcome
    exact absurd hb ha
  | accepted b s' hb hP => exact hP

theorem after_cases (h : Effects Refuses P x) (s : σ) : x.after s = s ∨ P s (x.after s) := by
  have hends := h s
  rw [after]
  generalize x.run s = result at hends ⊢
  cases hends with
  | failed e => exact .inl rfl
  | refused a ha => exact .inl rfl
  | accepted a s' ha hP => exact .inr hP

end Effects

/-- Whatever the computation answers on a state has `Q`. -/
def Answers (Q : σ → α → Prop) (x : Stateful ε σ α) : Prop :=
  ∀ s a, x.outcome s = .ok a → Q s a

namespace Answers

variable {Q : σ → α → Prop}

theorem answer (h : Answers Q x) {Q' : σ → β → Prop} {f : α → β}
    (hf : ∀ s a, Q s a → Q' s (f a)) : Answers Q' (x >>= fun a => pure (f a)) := by
  intro s b hb
  rw [outcome, EStateM.run_bind] at hb
  cases hr : x.run s with
  | ok a s' =>
    rw [hr] at hb
    cases hb
    refine hf s a (h s a ?_)
    rw [outcome, hr]
  | error e s' =>
    rw [hr] at hb
    cases hb

theorem const {Q' : σ → β → Prop} {f : α → β} (hf : ∀ s a, Q' s (f a)) :
    Answers Q' (x >>= fun a => pure (f a)) :=
  answer (fun _ _ _ => trivial : Answers (fun _ _ => True) x) fun s a _ => hf s a

theorem check {check : Except ε β} {f : β → Stateful ε σ α} (hf : ∀ b, Answers Q (f b)) :
    Answers Q (liftM check >>= f) := by
  intro s a ha
  rw [outcome, EStateM.run_bind, run_liftM] at ha
  cases hc : check with
  | ok b =>
    rw [hc] at ha
    exact hf b s a ha
  | error e =>
    rw [hc] at ha
    cases ha

theorem within {part : σ → τ} {put : σ → τ → σ} {Q : τ → α → Prop} {x : Stateful ε τ α}
    {Q' : σ → α → Prop} (h : Answers Q x) (hQ : ∀ s a, Q (part s) a → Q' s a) :
    Answers Q' (within part put x) := by
  intro s a ha
  rw [outcome, run_within] at ha
  cases hr : x.run (part s) with
  | ok b t =>
    rw [hr] at ha
    cases ha
    refine hQ s a (h (part s) a ?_)
    rw [outcome, hr]
  | error e t =>
    rw [hr] at ha
    cases ha

end Answers

end UmlDiagrams.Stateful
