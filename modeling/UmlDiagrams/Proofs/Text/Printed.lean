import UmlDiagrams.Naming
/-!
# Printed names and their keys

Each way of printing a name loses something of it, but never more than the key by which names are
compared. Names with different keys therefore print differently. Names in quotes with the same key
print alike; names in brackets do so up to their quotes.
-/

namespace UmlDiagrams

open Text

theorem quoted_eq_iff {a b : String} :
    quoted a = quoted b ↔
      (foldChars a.toList).map softenQuote = (foldChars b.toList).map softenQuote := by
  rw [quoted, quoted, String.ofList_inj]
  simp

theorem printKey_eq_of_quoted (c : Collection) {a b : String} (h : quoted a = quoted b) :
    printKey c a = printKey c b := by
  simp only [printKey]
  rw [quoted_eq_iff.mp h]

theorem quoted_eq_iff_printKey {c c' : Collection} (hc : c ≠ .components) (hc' : c' ≠ .components)
    {a b : String} : quoted a = quoted b ↔ printKey c a = printKey c' b := by
  rw [quoted_eq_iff, printKey, printKey, if_neg hc, if_neg hc']

private theorem softenBracket_softenQuote (c : Char) :
    softenBracket (softenQuote c) = softenQuote (softenBracket c) := by
  by_cases hq : c = '"'
  · subst hq
    decide
  · by_cases hl : c = '['
    · subst hl
      decide
    · by_cases hr : c = ']'
      · subst hr
        decide
      · simp [softenBracket, softenQuote, hq, hl, hr]

/-- A bracketed name with its quotes made single is as much as the key tells of a component. -/
theorem bracketed_eq_iff_printKey {a b : String} :
    (bracketed a).toList.map softenQuote = (bracketed b).toList.map softenQuote ↔
      printKey .components a = printKey .components b := by
  have hcomm : softenBracket ∘ softenQuote = softenQuote ∘ softenBracket :=
    funext softenBracket_softenQuote
  simp only [printKey, if_true]
  rw [List.map_map, List.map_map, hcomm]
  simp [bracketed]

theorem printKey_eq_of_bracketed {a b : String} (h : bracketed a = bracketed b) :
    printKey .components a = printKey .components b :=
  bracketed_eq_iff_printKey.mp (by rw [h])

theorem quote_notMem_of_isPlain {a : String} (h : isPlain a) : '"' ∉ a.toList := by
  intro hm
  have hall := (Bool.and_eq_true_iff.mp h).2
  have hquote := List.all_eq_true.mp hall '"' hm
  revert hquote
  decide

theorem ne_quoted_of_isPlain {a : String} (h : isPlain a) (b : String) : a ≠ quoted b := by
  intro heq
  have hm : '"' ∈ (quoted b).toList := by
    simp [quoted]
  rw [← heq] at hm
  exact quote_notMem_of_isPlain h hm

theorem printKey_eq_of_participant (c : Collection) {a b : String}
    (h : participant a = participant b) : printKey c a = printKey c b := by
  simp only [participant] at h
  by_cases ha : isPlain a
  · by_cases hb : isPlain b
    · rw [if_pos ha, if_pos hb] at h
      rw [h]
    · rw [if_pos ha, if_neg hb] at h
      exact absurd h (ne_quoted_of_isPlain ha b)
  · by_cases hb : isPlain b
    · rw [if_neg ha, if_pos hb] at h
      exact absurd h.symm (ne_quoted_of_isPlain hb a)
    · rw [if_neg ha, if_neg hb] at h
      exact printKey_eq_of_quoted c h

end UmlDiagrams
