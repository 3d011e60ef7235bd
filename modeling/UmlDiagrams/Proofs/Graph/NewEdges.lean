import UmlDiagrams.Proofs.Graph.Edits
import UmlDiagrams.Proofs.Graph.Listing

namespace UmlDiagrams

section

variable {α β : Type} {x : Except Rejection α} {f : α → Except Rejection β}
  {refusal refusal' : Option Rejection} {P : α → Prop} {Q : β → Prop}

def Settles (x : Except Rejection α) (refusal : Option Rejection) (P : α → Prop) : Prop :=
  match refusal with
  | some e => x = .error e
  | none => ∃ a, x = .ok a ∧ P a

/-- Of two checks, the first one is asked for a reason first. -/
theorem Settles.bind (hx : Settles x refusal P) (hf : ∀ a, P a → Settles (f a) refusal' Q) :
    Settles (x >>= f) (refusal.or refusal') Q := by
  cases refusal with
  | some e =>
    have herror : x = .error e := hx
    rw [herror]
    rfl
  | none =>
    obtain ⟨a, ha, hP⟩ := hx
    rw [ha]
    exact hf a hP

theorem Settles.answer (hx : Settles x refusal P) {answer : α → β} (hP : ∀ a, P a → Q (answer a)) :
    Settles (x >>= fun a => pure (answer a)) refusal Q := by
  rw [← Option.or_none (o := refusal)]
  exact hx.bind fun a ha => ⟨answer a, rfl, hP a ha⟩

end

def fewNodes? (c : Collection) (needed found : Nat) : Option Rejection :=
  if found < needed then some (.notEnoughNodes c needed found) else none

theorem requireNodes_settles (c : Collection) (needed found : Nat) :
    Settles (requireNodes c needed found) (fewNodes? c needed found) fun _ => needed ≤ found := by
  rw [requireNodes, fewNodes?]
  by_cases h : found < needed
  · rw [if_pos h, if_pos h]
    rfl
  · rw [if_neg h, if_neg h]
    exact ⟨(), rfl, Nat.not_lt.mp h⟩

section

variable {κ : Type} [DecidableEq κ] {c : Collection} {reference : κ → Reference} {keys : List κ}
  {requested : Option κ} {position : Nat}

def unknownEnd? (c : Collection) (reference : κ → Reference) (keys : List κ) :
    Option κ → Option Rejection
  | some key => if key ∈ keys then none else some (.unknownEndpoint c (reference key))
  | none => none

/-- Where the default is there, an end is refused only because it is unknown. -/
theorem pickEnd_settles (hposition : position < keys.length) :
    Settles (pickEnd c reference keys requested position) (unknownEnd? c reference keys requested)
      fun key => requested.or keys[position]? = some key := by
  cases requested with
  | none =>
    rw [pickEnd, unknownEnd?, List.getElem?_eq_getElem hposition, Option.none_or]
    exact ⟨_, rfl, rfl⟩
  | some key =>
    rw [pickEnd, unknownEnd?, Option.some_or]
    by_cases hkey : key ∈ keys
    · rw [if_pos hkey, if_pos hkey]
      exact ⟨key, rfl, rfl⟩
    · rw [if_neg hkey, if_neg hkey]
      rfl

theorem pickEnd_default (hposition : position < keys.length) :
    pickEnd c reference keys (requested.or keys[position]?) position =
      pickEnd c reference keys requested position := by
  cases requested with
  | none =>
    rw [Option.none_or, List.getElem?_eq_getElem hposition, pickEnd, pickEnd,
      if_pos (List.getElem_mem hposition), List.getElem?_eq_getElem hposition]
  | some key => rfl

end

namespace Graph

variable {κ ν ε : Type} [DecidableEq κ] (R : Rules κ ν ε) (g : Graph κ ν ε)

def linkEnds (source target : Option κ) : Option (κ × κ) := do
  return (← source.or (g.keys R)[0]?, ← target.or (g.keys R)[1]?)

def duplicateEdge? (same : ε → ε → Bool) (ends : Option (κ × κ)) (data : ε) : Option Rejection :=
  if ∃ e ∈ g.edges, ends = some (e.source, e.target) ∧ same e.data data then
    some (.duplicateEdge R.edges)
  else none

def linkRefusal? (same : ε → ε → Bool) (source target : Option κ) (data : ε) : Option Rejection :=
  (fewNodes? R.nodes 2 g.nodes.length).or <|
    (unknownEnd? R.nodes R.reference (g.keys R) source).or <|
      (unknownEnd? R.nodes R.reference (g.keys R) target).or <|
        g.duplicateEdge? R same (g.linkEnds R source target) data

variable {R g} {source target : Option κ} {data : ε}

private theorem requireUnique_settles (a b : κ) :
    Settles (g.requireUnique R none a b data) (g.duplicateEdge? R R.clash (some (a, b)) data)
      fun _ => True := by
  rw [requireUnique, duplicateEdge?]
  have hdup : g.hasDuplicate R none a b data = true ↔
      ∃ e ∈ g.edges, some (a, b) = some (e.source, e.target) ∧ R.clash e.data data = true := by
    simp [hasDuplicate, and_assoc, @eq_comm κ a, @eq_comm κ b]
  by_cases h : ∃ e ∈ g.edges, some (a, b) = some (e.source, e.target) ∧ R.clash e.data data = true
  · rw [if_pos h, if_pos (hdup.mpr h)]
    rfl
  · rw [if_neg h, if_neg (mt hdup.mp h)]
    exact ⟨(), rfl, trivial⟩

theorem newEnds_settles :
    Settles (g.newEnds R source target data) (g.linkRefusal? R R.clash source target data)
      fun ends => g.linkEnds R source target = some ends := by
  have hkeys : (g.keys R).length = g.nodes.length := List.length_map _
  rw [newEnds, linkRefusal?, hkeys]
  refine (requireNodes_settles R.nodes 2 _).bind fun _ hlen => ?_
  refine (pickEnd_settles (by omega)).bind fun a ha => ?_
  refine (pickEnd_settles (by omega)).bind fun b hb => ?_
  have hends : g.linkEnds R source target = some (a, b) := by
    rw [linkEnds, ha, hb]
    rfl
  rw [hends]
  exact (requireUnique_settles a b).answer fun _ _ => rfl

theorem newEnds_default :
    g.newEnds R (source.or (g.keys R)[0]?) (target.or (g.keys R)[1]?) data =
      g.newEnds R source target data := by
  by_cases hlen : (g.keys R).length < 2
  · rw [newEnds, newEnds, requireNodes, if_pos hlen]
    rfl
  · rw [newEnds, newEnds, pickEnd_default (by omega), pickEnd_default (by omega)]

end Graph

end UmlDiagrams
