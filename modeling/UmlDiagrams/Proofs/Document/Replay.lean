import Mathlib.Data.List.Forall2
import UmlDiagrams.Document.Replay
import UmlDiagrams.Proofs.Outcome
import UmlDiagrams.Proofs.Stateful

namespace UmlDiagrams

open Stateful

variable {τ α : Type} {s : Store} {C C' : Prop} {F F' : Store → Prop} {E E' : Rejection → Prop}

namespace Store

theorem replay_append (s : Store) (xs ys : List Step) :
    s.replay (xs ++ ys) =
      match s.replay xs with
      | (s', .ok ()) => s'.replay ys
      | (s', .error e) => (s', .error e) := by
  induction xs generalizing s with
  | nil => rfl
  | cons x xs ih =>
    rw [List.cons_append, replay, replay]
    cases x.action.perform.run s with
    | ok a s' => exact ih s'
    | error e s' => rfl

/-- On `s`, the replay of the steps succeeds exactly if `C` holds. A success leaves a store with `F`,
a failure has a reason with `E`. -/
@[irreducible] def Replays (s : Store) (steps : List Step) (C : Prop) (F : Store → Prop)
    (E : Rejection → Prop) : Prop :=
  match s.replay steps with
  | (s', .ok ()) => C ∧ F s'
  | (_, .error e) => ¬ C ∧ E e.reason

theorem replays_nil (hC : C) (hF : F s) : s.Replays [] C F E := by
  rw [Replays]
  exact ⟨hC, hF⟩

variable {steps more : List Step}

theorem Replays.imp (h : s.Replays steps C F E) (hC : C ↔ C') (hF : ∀ s', C → F s' → F' s')
    (hE : ∀ e, ¬ C → E e → E' e) : s.Replays steps C' F' E' := by
  rw [Replays] at h ⊢
  rcases hr : s.replay steps with ⟨s', ⟨e⟩ | ⟨⟩⟩
  · rw [hr] at h
    exact ⟨fun hc => h.1 (hC.mpr hc), hE _ h.1 h.2⟩
  · rw [hr] at h
    exact ⟨hC.mp h.1, hF s' h.1 h.2⟩

theorem Replays.replay_eq {t : Store} (h : s.Replays steps C (· = t) E) (hC : C) :
    s.replay steps = (t, .ok ()) := by
  rw [Replays] at h
  rcases hr : s.replay steps with ⟨s', ⟨e⟩ | ⟨⟩⟩
  · rw [hr] at h
    exact absurd hC h.1
  · rw [hr] at h
    rw [h.2]

theorem Replays.eq_of_ok {t : Store} (h : s.Replays steps C (· = t) E)
    (hok : (s.replay steps).2 = .ok ()) : s.replay steps = (t, .ok ()) := by
  rw [Replays] at h
  rcases hr : s.replay steps with ⟨s', ⟨e⟩ | ⟨⟩⟩
  · rw [hr] at hok
    cases hok
  · rw [hr] at h
    rw [h.2]

theorem Replays.append (h : s.Replays steps C F E)
    (hmore : ∀ s', C → F s' → s'.Replays more C' F' E) :
    s.Replays (steps ++ more) (C ∧ C') F' E := by
  rw [Replays] at h ⊢
  rw [replay_append]
  rcases hr : s.replay steps with ⟨s', ⟨e⟩ | ⟨⟩⟩
  · rw [hr] at h
    exact ⟨fun hc => h.1 hc.1, h.2⟩
  · rw [hr] at h
    have hnext := hmore s' h.1 h.2
    rw [Replays] at hnext
    dsimp only
    rcases hr' : s'.replay more with ⟨s'', ⟨e⟩ | ⟨⟩⟩
    · rw [hr'] at hnext
      exact ⟨fun hc => hnext.1 hc.2, hnext.2⟩
    · rw [hr'] at hnext
      exact ⟨⟨h.1, hnext.1⟩, hnext.2⟩

end Store

/-- A part that can be read and put back. -/
structure Part (τ : Type) where
  part : Store → τ
  put : Store → τ → Store
  part_put : ∀ s t, part (put s t) = t
  put_part : ∀ s, put s (part s) = s
  put_put : ∀ s t t', put (put s t) t' = put s t'

/-- The step performs `x` on a part of the store. -/
def Step.Performs (L : Part τ) (step : Step) (x : Editing τ α) : Prop :=
  ∀ s, step.action.perform.run s =
    match x.run (L.part s) with
    | .ok _ t => .ok () (L.put s t)
    | .error e t => .error e (L.put s t)

theorem Action.perform_run (a : Action) (s : Store) :
    a.perform.run s =
      match a.resolve s with
      | .ok resolved =>
        match (Store.apply resolved).run s with
        | .ok _ s' => .ok () s'
        | .error e s' => .error e s'
      | .error e => .error e s := by
  cases hr : a.resolve s with
  | error e => simp [perform, hr]
  | ok resolved => cases ha : (Store.apply resolved).run s <;> simp [perform, hr, ha]

theorem performs_of_resolve {L : Part τ} {action : Action} {x : Editing τ Reply}
    (h : ∀ s, ∃ edit y, action.resolve s = .ok edit ∧ Store.apply edit = within L.part L.put y ∧
      x.run (L.part s) = y.run (L.part s)) (place : Place) :
    Step.Performs L ⟨place, action⟩ x := by
  intro s
  obtain ⟨edit, y, hresolve, happly, hrun⟩ := h s
  rw [Action.perform_run, hresolve]
  dsimp only
  rw [happly, run_within, hrun]
  cases y.run (L.part s) <;> rfl

theorem performs_edit {L : Part τ} {edit : Edit} {x : Editing τ Reply}
    (h : Store.apply edit = within L.part L.put x) (place : Place) :
    Step.Performs L ⟨place, .edit edit⟩ x :=
  performs_of_resolve (fun _ => ⟨edit, x, rfl, h, rfl⟩) place

theorem nodeSteps_perform {L : Part τ} {edit : String → Edit} {x : String → Editing τ Reply}
    (h : ∀ n, Store.apply (edit n) = within L.part L.put (x n)) (what : String)
    (names : List String) :
    List.Forall₂ (Step.Performs L) (nodeSteps what edit names) (names.map x) := by
  induction names with
  | nil => exact .nil
  | cons n names ih => exact .cons (performs_edit (h n) _) ih

theorem edgeSteps_perform {L : Part τ} {action : α → Action} {x : α → Editing τ Reply}
    (h : ∀ spec place, Step.Performs L ⟨place, action spec⟩ (x spec)) (what : String)
    (specs : List α) :
    List.Forall₂ (Step.Performs L) (edgeSteps what action specs) (specs.map x) := by
  suffices hplaces : ∀ places : Nat → Place, List.Forall₂ (Step.Performs L)
      (specs.mapIdx fun i spec => ⟨places i, action spec⟩) (specs.map x) from
    hplaces fun i => .edge what (i + 1)
  induction specs with
  | nil => exact fun _ => .nil
  | cons spec specs ih =>
    intro places
    rw [List.mapIdx_cons]
    exact .cons (h spec _) (ih fun i => places (i + 1))

theorem sectionSteps_perform {L : Part τ} {add : String → Edit} {link : α → Edit}
    {x : String → Editing τ Reply} {y : α → Editing τ Reply}
    (hadd : ∀ n, Store.apply (add n) = within L.part L.put (x n))
    (hlink : ∀ a, Store.apply (link a) = within L.part L.put (y a)) (node edge : String)
    (names : List String) (specs : List α) :
    List.Forall₂ (Step.Performs L)
      (nodeSteps node add names ++ edgeSteps edge (fun a => .edit (link a)) specs)
      (names.map x ++ specs.map y) :=
  List.rel_append (nodeSteps_perform hadd node names)
    (edgeSteps_perform (fun a => performs_edit (hlink a)) edge specs)

namespace Store

private theorem replay_within {L : Part τ} {steps : List Step} {xs : List (Editing τ α)}
    (h : List.Forall₂ (Step.Performs L) steps xs) (s : Store) :
    match (inOrder xs).run (L.part s) with
    | .ok _ t => s.replay steps = (L.put s t, .ok ())
    | .error e t => ∃ place, s.replay steps = (L.put s t, .error ⟨place, e⟩) := by
  induction h generalizing s with
  | nil => exact congrArg (·, Except.ok ()) (L.put_part s).symm
  | @cons step x steps xs hstep hsteps ih =>
    have hperform := hstep s
    rw [inOrder, EStateM.run_bind, replay]
    cases hx : x.run (L.part s) with
    | error e t =>
      rw [hx] at hperform
      rw [hperform]
      exact ⟨step.place, rfl⟩
    | ok a t =>
      rw [hx] at hperform
      rw [hperform]
      have hrest := ih (L.put s t)
      rw [L.part_put] at hrest
      dsimp only
      cases hxs : (inOrder xs).run t with
      | ok a t' =>
        rw [hxs] at hrest
        dsimp only at hrest ⊢
        rw [hrest, L.put_put]
      | error e t' =>
        rw [hxs] at hrest
        obtain ⟨place, hrest⟩ := hrest
        dsimp only
        exact ⟨place, by rw [hrest, L.put_put]⟩

/-- The outcome of the edits of a part is the outcome of the steps. -/
theorem replays_within {L : Part τ} {steps : List Step} {xs : List (Editing τ α)}
    (h : List.Forall₂ (Step.Performs L) steps xs) {G : τ → Prop}
    (hxs : Decides (inOrder xs) (L.part s) C G E) :
    s.Replays steps C (fun s' => ∃ t, G t ∧ s' = L.put s t) E := by
  have hreplay := replay_within h s
  rw [Decides] at hxs
  rw [Replays]
  cases hr : (inOrder xs).run (L.part s) with
  | ok a t =>
    rw [hr] at hxs hreplay
    rw [hreplay]
    exact ⟨hxs.1, t, hxs.2, rfl⟩
  | error e t =>
    rw [hr] at hxs hreplay
    obtain ⟨place, hreplay⟩ := hreplay
    rw [hreplay]
    exact hxs

end Store

end UmlDiagrams
