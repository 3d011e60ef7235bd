import Mathlib.Data.List.Induction
import Mathlib.Data.List.Nodup
import UmlDiagrams.Change
/-!
# Lists of change notices

Notices are joined the way a list is rid of repetitions: of each collection the first notice stays.
-/

namespace UmlDiagrams

variable {pending touched : List Collection}

theorem notice_append (pending touched more : List Collection) :
    notice pending (touched ++ more) = notice (notice pending touched) more :=
  List.foldl_append

private theorem notice_cons (pending : List Collection) (c : Collection)
    (touched : List Collection) :
    notice pending (c :: touched) = notice (notice pending [c]) touched :=
  rfl

private theorem notice_singleton (pending : List Collection) (c : Collection) :
    notice pending [c] = if c ∈ pending then pending else pending ++ [c] :=
  rfl

theorem mem_notice {c : Collection} :
    c ∈ notice pending touched ↔ c ∈ pending ∨ c ∈ touched := by
  induction touched generalizing pending with
  | nil => simp [notice]
  | cons d touched ih =>
    rw [notice_cons, ih, notice_singleton, List.mem_cons]
    by_cases hd : d ∈ pending
    · rw [if_pos hd]
      constructor
      · exact Or.imp_right .inr
      · rintro (h | rfl | h)
        · exact .inl h
        · exact .inl hd
        · exact .inr h
    · rw [if_neg hd, List.mem_append, List.mem_singleton, or_assoc]

theorem notice_nodup (h : pending.Nodup) : (notice pending touched).Nodup := by
  induction touched generalizing pending with
  | nil => exact h
  | cons c touched ih =>
    rw [notice_cons]
    refine ih ?_
    rw [notice_singleton]
    by_cases hc : c ∈ pending
    · rw [if_pos hc]
      exact h
    · rw [if_neg hc, ← List.concat_eq_append]
      exact h.concat hc

/-- To the pending notices come the first ones of the others. -/
private theorem notice_eq (pending touched : List Collection) :
    notice pending touched = pending ++ (touched.filter (· ∉ pending)).eraseDups := by
  induction touched generalizing pending with
  | nil => exact (List.append_nil _).symm
  | cons c touched ih =>
    rw [notice_cons, notice_singleton]
    by_cases hc : c ∈ pending
    · rw [if_pos hc, ih, List.filter_cons_of_neg (by simpa using hc)]
    · rw [if_neg hc, ih, List.filter_cons_of_pos (by simpa using hc), List.eraseDups_cons,
        List.filter_filter, List.append_assoc, List.singleton_append]
      congr 3
      refine List.filter_congr fun d _ => ?_
      by_cases hd : d ∈ pending <;> by_cases hdc : d = c <;> simp [hd, hdc]

theorem notice_of_forall_mem (h : ∀ c ∈ touched, c ∈ pending) :
    notice pending touched = pending := by
  rw [notice_eq, List.filter_eq_nil_iff.mpr fun c hc => by simpa using h c hc]
  exact List.append_nil _

theorem notice_nil_eq (touched : List Collection) : notice [] touched = touched.eraseDups := by
  rw [notice_eq, List.nil_append, List.filter_eq_self.mpr (by simp)]

theorem notice_notice (pending touched : List Collection) :
    notice pending (notice [] touched) = notice pending touched := by
  induction touched using List.reverseRecOn with
  | nil => rfl
  | append_singleton touched c ih =>
    rw [notice_append, notice_append, notice_singleton]
    by_cases hc : c ∈ notice [] touched
    · have hmem : c ∈ notice pending touched := by
        rw [mem_notice] at hc ⊢
        exact .inr (hc.resolve_left (List.not_mem_nil))
      rw [if_pos hc, ih, notice_singleton, if_pos hmem]
    · rw [if_neg hc, notice_append, ih]

theorem foldl_notice {α : Type} (f : α → List Collection) (parts : List α)
    (pending : List Collection) :
    (parts.map fun part => notice [] (f part)).foldl notice pending =
      notice pending (parts.flatMap f) := by
  induction parts generalizing pending with
  | nil => rfl
  | cons part parts ih =>
    rw [List.map_cons, List.foldl_cons, List.flatMap_cons, ih, notice_notice, notice_append]

end UmlDiagrams
