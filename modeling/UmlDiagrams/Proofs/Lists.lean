import Mathlib.Data.List.Nodup
import Mathlib.Data.List.Pairwise

namespace UmlDiagrams

variable {α β : Type} [DecidableEq β] {f : α → β} {l : List α}

theorem filter_ne_eq_self {b : β} (h : b ∉ l.map f) : l.filter (fun x => f x ≠ b) = l := by
  rw [List.filter_eq_self]
  intro x hx
  exact decide_eq_true fun he => h (he ▸ List.mem_map_of_mem hx)

theorem length_filter_ne {b : β} (h : b ∈ l.map f) :
    (l.filter fun x => f x ≠ b).length ≠ l.length := by
  obtain ⟨x, hx, rfl⟩ := List.mem_map.mp h
  intro hl
  have hall := List.length_filter_eq_length_iff.mp hl x hx
  simp at hall

omit [DecidableEq β] in
/-- What is kept of the images can be told from the records. -/
theorem filter_map_of {p : β → Bool} {q : α → Bool} (h : ∀ x ∈ l, p (f x) = q x) :
    (l.map f).filter p = (l.filter q).map f := by
  rw [List.filter_map]
  exact congrArg (List.map f) (List.filter_congr h)

theorem mem_map_replace {a x : α} (h : x ∈ l.map fun y => if f y = f a then a else y) :
    x = a ∨ x ∈ l := by
  obtain ⟨y, hy, rfl⟩ := List.mem_map.mp h
  by_cases he : f y = f a
  · rw [if_pos he]
    exact .inl rfl
  · rw [if_neg he]
    exact .inr hy

theorem map_map_replace {γ : Type} {v : α → γ} {a : α} (h : ∀ x ∈ l, f x = f a → v x = v a) :
    (l.map fun y => if f y = f a then a else y).map v = l.map v := by
  rw [List.map_map]
  apply List.map_congr_left
  intro x hx
  by_cases he : f x = f a
  · rw [Function.comp_apply, if_pos he, h x hx he]
  · rw [Function.comp_apply, if_neg he]

omit [DecidableEq β] in
theorem map_replace_map {γ : Type} {v : α → γ} {p : α → Prop} {q : γ → Prop} [DecidablePred p]
    [DecidablePred q] (h : ∀ x, q (v x) ↔ p x) (a : α) :
    (l.map fun y => if p y then a else y).map v =
      (l.map v).map fun y => if q y then v a else y := by
  rw [List.map_map, List.map_map]
  refine List.map_congr_left fun x _ => ?_
  rw [Function.comp_apply, Function.comp_apply]
  by_cases hp : p x
  · rw [if_pos hp, if_pos ((h x).mpr hp)]
  · rw [if_neg hp, if_neg (mt (h x).mp hp)]

theorem pairwise_map_replace {P : α → α → Prop} [Std.Symm P] {a : α}
    (hk : (l.map f).Nodup) (hl : l.Pairwise P) (ha : ∀ x ∈ l, f x ≠ f a → P x a) :
    (l.map fun y => if f y = f a then a else y).Pairwise P := by
  have hne : l.Pairwise fun x y => f x ≠ f y := List.pairwise_map.mp hk
  rw [List.pairwise_map]
  refine (hl.and hne).imp_of_mem fun {x y} hx hy hxy => ?_
  by_cases hxa : f x = f a
  · have hya : f y ≠ f a := fun h => hxy.2 (hxa.trans h.symm)
    rw [if_pos hxa, if_neg hya]
    exact symm (ha y hy hya)
  · rw [if_neg hxa]
    by_cases hya : f y = f a
    · rw [if_pos hya]
      exact ha x hx hxa
    · rw [if_neg hya]
      exact hxy.1

omit [DecidableEq β] in
theorem eq_of_key_eq (hk : (l.map f).Nodup) {x y : α} (hx : x ∈ l) (hy : y ∈ l)
    (h : f x = f y) : x = y :=
  List.inj_on_of_nodup_map hk hx hy h

theorem find?_key_eq_none {b : β} (h : b ∉ l.map f) : l.find? (fun x => f x = b) = none :=
  List.find?_eq_none.mpr fun _ hx heq =>
    h (of_decide_eq_true heq ▸ List.mem_map_of_mem hx)

theorem find?_key (hk : (l.map f).Nodup) {x : α} (hx : x ∈ l) :
    l.find? (fun y => f y = f x) = some x := by
  cases hfind : l.find? fun y => f y = f x with
  | none => exact absurd (decide_eq_true rfl) (List.find?_eq_none.mp hfind x hx)
  | some y =>
    have hy : f y = f x := by
      simpa using List.find?_some hfind
    rw [eq_of_key_eq hk (List.mem_of_find?_eq_some hfind) hx hy]

theorem find?_key_last {keys : List β} {b : β} (hk : (l.map f).Nodup)
    (h : l.map f = keys ++ [b]) :
    ∃ x, l.find? (fun y => f y = b) = some x ∧ l.getLast? = some x := by
  have hlast : l.getLast?.map f = some b := by
    rw [← List.getLast?_map, h, List.getLast?_concat]
  obtain ⟨x, hx, rfl⟩ := Option.map_eq_some_iff.mp hlast
  exact ⟨x, find?_key hk (List.mem_of_getLast? hx), hx⟩

/-- With distinct keys, the records around one are all that is left when the records with its key
go, and stay where they are when another record with this key takes its place. -/
theorem split_at_key (hk : (l.map f).Nodup) {x : α} (hx : x ∈ l) :
    ∃ front back, l = front ++ x :: back ∧ (l.filter fun y => f y ≠ f x) = front ++ back ∧
      ∀ a, f a = f x → (l.map fun y => if f y = f a then a else y) = front ++ a :: back := by
  obtain ⟨front, back, rfl⟩ := List.append_of_mem hx
  rw [List.map_append, List.map_cons, List.nodup_middle, List.nodup_cons, List.mem_append,
    not_or] at hk
  obtain ⟨⟨hfront, hback⟩, -⟩ := hk
  have hkeep (part : List α) (hpart : f x ∉ part.map f) (a : α) (ha : f a = f x) :
      (part.map fun y => if f y = f a then a else y) = part := by
    conv_rhs => rw [← List.map_id part]
    apply List.map_congr_left
    intro y hy
    have hne : f y ≠ f a := fun h => hpart ((h.trans ha) ▸ List.mem_map_of_mem hy)
    rw [if_neg hne, id]
  refine ⟨front, back, rfl, ?_, fun a ha => ?_⟩
  · rw [List.filter_append, List.filter_cons_of_neg (by simp), filter_ne_eq_self hfront,
      filter_ne_eq_self hback]
  · rw [List.map_append, List.map_cons, hkeep front hfront a ha, hkeep back hback a ha,
      if_pos ha.symm]

end UmlDiagrams
