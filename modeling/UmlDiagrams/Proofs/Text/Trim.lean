import Mathlib.Data.List.DropRight
import UmlDiagrams.Text.Blank
/-!
# Trimmed text

Trimming twice is trimming once, so a name is stored in a form that trimming does not change. What
is left of a text begins with its first character that is no blank.
-/

namespace UmlDiagrams.Text

private theorem trimChars_trimChars (cs : List Char) : trimChars (trimChars cs) = trimChars cs := by
  let front := cs.dropWhile isBlank
  have hback : trimChars cs = front.rdropWhile isBlank := rfl
  have hfront : (front.rdropWhile isBlank).dropWhile isBlank = front.rdropWhile isBlank := by
    rw [List.dropWhile_eq_self_iff]
    intro hl
    have hp := List.rdropWhile_prefix isBlank front
    rw [hp.getElem hl]
    exact List.dropWhile_get_zero_not isBlank cs _
  rw [hback]
  change ((front.rdropWhile isBlank).dropWhile isBlank).rdropWhile isBlank = _
  rw [hfront, List.rdropWhile_idempotent]

@[simp] theorem trim_trim (s : String) : trim (trim s) = trim s := by
  rw [trim, toList_trim, trimChars_trimChars, trim]

private theorem rdropWhile_cons_ne_nil {c : Char} (h : ¬ isBlank c) (cs : List Char) :
    (c :: cs).rdropWhile isBlank ≠ [] := by
  rw [ne_eq, List.rdropWhile_eq_nil_iff]
  exact fun hall => h (hall c List.mem_cons_self)

/-- A blank cannot hide what it does not precede. -/
theorem trimChars_cons_ne_nil {c : Char} (h : ¬ isBlank c) (cs : List Char) :
    trimChars (c :: cs) ≠ [] := by
  have hfront : (c :: cs).dropWhile isBlank = c :: cs := List.dropWhile_cons_of_neg h
  change ((c :: cs).dropWhile isBlank).rdropWhile isBlank ≠ []
  rw [hfront]
  exact rdropWhile_cons_ne_nil h cs

/-- The form in which names are stored: trimmed, and not empty. -/
structure IsName (s : String) : Prop where
  trimmed : trim s = s
  nonempty : s ≠ ""

theorem trim_blank_append {a : String} (h : ∀ c ∈ a.toList, isBlank c) (b : String) :
    trim (a ++ b) = trim b := by
  have hdrop : (a.toList ++ b.toList).dropWhile isBlank = b.toList.dropWhile isBlank :=
    List.dropWhile_append_of_pos h
  rw [trim, trim, String.toList_append, trimChars, hdrop, trimChars]

theorem mem_trim_or_isBlank {s : String} {c : Char} (h : c ∈ s.toList) :
    c ∈ (trim s).toList ∨ isBlank c := by
  have htrim : (trim s).toList = (s.toList.dropWhile isBlank).rdropWhile isBlank := toList_trim s
  rw [← List.takeWhile_append_dropWhile (p := isBlank) (l := s.toList), List.mem_append] at h
  rcases h with h | h
  · exact .inr (List.mem_takeWhile_imp h)
  · rw [← List.rdropWhile_append_rtakeWhile (p := isBlank) (l := s.toList.dropWhile isBlank),
      List.mem_append, ← htrim] at h
    exact h.imp_right List.mem_rtakeWhile_imp

def lead? (s : String) : Option Char :=
  (s.toList.dropWhile isBlank).head?

theorem lead?_append {a : String} {c : Char} (h : lead? a = some c) (b : String) :
    lead? (a ++ b) = some c := by
  have hne : a.toList.dropWhile isBlank ≠ [] := by
    intro hnil
    rw [lead?, hnil] at h
    cases h
  have hdrop : (a ++ b).toList.dropWhile isBlank = a.toList.dropWhile isBlank ++ b.toList := by
    rw [String.toList_append, List.dropWhile_append, if_neg (by simpa using hne)]
  rw [lead?, hdrop, List.head?_append_of_ne_nil _ hne]
  exact h

theorem head?_trim (s : String) : (trim s).toList.head? = lead? s := by
  have htrim : (trim s).toList = (s.toList.dropWhile isBlank).rdropWhile isBlank := toList_trim s
  rw [htrim, lead?]
  cases hdrop : s.toList.dropWhile isBlank with
  | nil => rfl
  | cons c cs =>
    have hc : ¬ isBlank c := by
      have hhead := List.head?_dropWhile_not isBlank s.toList
      rw [hdrop] at hhead
      simpa using hhead
    obtain ⟨d, ds, hrest⟩ := List.exists_cons_of_ne_nil (rdropWhile_cons_ne_nil hc cs)
    have hfront := List.rdropWhile_prefix isBlank (c :: cs)
    rw [hrest, List.cons_prefix_cons] at hfront
    rw [hrest, hfront.1]
    rfl

end UmlDiagrams.Text
