import UmlDiagrams.Proofs.Simulation
/-!
# Computations that mirror each other

A computation mirrors another one if it does to the image of a state what the other one does to the
state, and ends with the image of its answer or error. Two runs whose computations mirror each other
go through images of the same states.
-/

namespace UmlDiagrams

namespace Stateful

variable {ε ε' σ τ α α' β β' ι : Type} {state : σ → τ} {error : ε → ε'} {reply : α → α'}
  {x : Stateful ε σ α} {y : Stateful ε' τ α'} {s : σ}

/-- On `s`, the computation `y` mirrors `x`. -/
def Mirrors (state : σ → τ) (error : ε → ε') (reply : α → α') (x : Stateful ε σ α)
    (y : Stateful ε' τ α') (s : σ) : Prop :=
  y.run (state s) =
    match x.run s with
    | .ok a s' => .ok (reply a) (state s')
    | .error e s' => .error (error e) (state s')

/-- To mirror a computation is to simulate it along a function. -/
theorem mirrors_iff : Mirrors state error reply x y s ↔
    Simulates (fun s t => t = state s) error reply x y s (state s) := by
  rw [Mirrors, Simulates]
  constructor
  · intro h
    rw [h]
    cases x.run s with
    | ok a s' => exact .ok a rfl
    | error e s' => exact .error e rfl
  · intro h
    generalize x.run s = result, y.run (state s) = result' at h ⊢
    cases h with
    | ok a h => rw [h]
    | error e h => rw [h]

private theorem Mirrors.outcome_eq (h : Mirrors state error reply x y s) :
    y.outcome (state s) = outcomeImage error reply (x.outcome s) :=
  (mirrors_iff.mp h).outcome_eq

private theorem Mirrors.after_eq (h : Mirrors state error reply x y s) :
    y.after (state s) = state (x.after s) :=
  (mirrors_iff.mp h).related

theorem Mirrors.answer {reply' : β → β'} {f : α → β} {f' : α' → β'}
    (h : Mirrors state error reply x y s) (hf : ∀ a, f' (reply a) = reply' (f a)) :
    Mirrors state error reply' (x >>= fun a => pure (f a)) (y >>= fun a => pure (f' a)) s :=
  mirrors_iff.mpr ((mirrors_iff.mp h).answer hf)

theorem Mirrors.check {check : Except ε β} {check' : Except ε' β'} {image : β → β'}
    {f : β → Stateful ε σ α} {f' : β' → Stateful ε' τ α'}
    (hcheck : check' = outcomeImage error image check)
    (hf : ∀ b, Mirrors state error reply (f b) (f' (image b)) s) :
    Mirrors state error reply (liftM check >>= f) (liftM check' >>= f') s :=
  mirrors_iff.mpr (Simulates.check rfl hcheck fun b => mirrors_iff.mp (hf b))

/-- What each computation of a run comes to, with the state that it leaves. -/
def traced (perform : ι → Stateful ε σ α) : σ → List ι → List (Except ε α × σ)
  | _, [] => []
  | s, i :: is =>
    ((perform i).outcome s, (perform i).after s) :: traced perform ((perform i).after s) is

def entryImage (state : σ → τ) (error : ε → ε') (reply : α → α') (entry : Except ε α × σ) :
    Except ε' α' × τ :=
  (outcomeImage error reply entry.1, state entry.2)

/-- If each computation of a run mirrors one of another run as long as an invariant holds, then so
does the whole run. -/
theorem traced_of_mirrors {I : σ → Prop} {perform : ι → Stateful ε σ α}
    {perform' : ι → Stateful ε' τ α'} {is : List ι}
    (hmirrors : ∀ i ∈ is, ∀ s, I s → Mirrors state error reply (perform i) (perform' i) s)
    (hkeeps : ∀ i ∈ is, Keeps I (perform i)) (hs : I s) :
    traced perform' (state s) is =
      (traced perform s is).map (entryImage state error reply) := by
  induction is generalizing s with
  | nil => rfl
  | cons i is ih =>
    rw [List.forall_mem_cons] at hmirrors hkeeps
    have hi := hmirrors.1 s hs
    rw [traced, traced, List.map_cons, hi.outcome_eq, hi.after_eq,
      ih hmirrors.2 hkeeps.2 (hkeeps.1 s hs)]
    rfl

end Stateful

end UmlDiagrams
