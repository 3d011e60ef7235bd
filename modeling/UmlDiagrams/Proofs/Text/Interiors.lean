import UmlDiagrams.Proofs.Text.Tokens
/-!
# Inside printed names

A closed name is a text between two characters that it does not hold. It is already in the form that
printing gives it, and it is never the name of a participant that stands bare.
-/

namespace UmlDiagrams.Text

def inside (s : String) : String :=
  String.ofList s.toList.tail.dropLast

private theorem inside_quoted (s : String) :
    inside (quoted s) = String.ofList ((foldChars s.toList).map softenQuote) := by
  rw [inside, quoted_toList, List.cons_append, List.tail_cons, List.dropLast_concat]

private theorem inside_bracketed (s : String) :
    inside (bracketed s) = String.ofList ((foldChars s.toList).map softenBracket) := by
  rw [inside, bracketed_toList, List.cons_append, List.tail_cons, List.dropLast_concat]

private theorem softenQuote_softenQuote (c : Char) : softenQuote (softenQuote c) = softenQuote c :=
  if_neg (softenQuote_ne c)

private theorem softenBracket_softenBracket (c : Char) : softenBracket (softenBracket c) =
    softenBracket c :=
  (if_neg (softenBracket_ne c).1).trans (if_neg (softenBracket_ne c).2)

private theorem softened_unbroken {soften : Char → Char}
    (h : ∀ c, ¬ IsBreak c → ¬ IsBreak (soften c)) (cs : List Char) :
    ∀ c ∈ (foldChars cs).map soften, ¬ IsBreak c := by
  rw [List.forall_mem_map]
  exact fun c hc => h c (foldChars_unbroken cs c hc)

private theorem softened_again {soften : Char → Char} (h : ∀ c, ¬ IsBreak c → ¬ IsBreak (soften c))
    (hsoften : ∀ c, soften (soften c) = soften c) (cs : List Char) :
    (foldChars ((foldChars cs).map soften)).map soften = (foldChars cs).map soften := by
  rw [foldChars_of_unbroken (softened_unbroken h cs), List.map_map]
  exact List.map_congr_left fun c _ => hsoften c

private theorem quoted_inside (s : String) : quoted (inside (quoted s)) = quoted s := by
  rw [quoted_eq_iff, inside_quoted, String.toList_ofList]
  exact softened_again (fun _ => softenQuote_isBreak) softenQuote_softenQuote s.toList

private theorem bracketed_inside (s : String) : bracketed (inside (bracketed s)) = bracketed s := by
  rw [← String.toList_inj, bracketed_toList, bracketed_toList, inside_bracketed,
    String.toList_ofList, softened_again (fun _ => softenBracket_isBreak) softenBracket_softenBracket]

private theorem length_le_foldChars (cs : List Char) : cs.length ≤ (foldChars cs).length := by
  induction cs using foldChars_induction with
  | nil => exact Nat.le_refl 0
  | pair rest ih =>
    rw [foldChars_pair]
    simpa using ih
  | single c rest hpair ih =>
    rw [foldChars_single hpair, List.length_append, List.length_cons]
    split <;> simp only [List.length_cons, List.length_nil] <;> omega

private theorem quoted_ne_self (s : String) : quoted s ≠ s := by
  intro h
  have hlength := congrArg (·.toList.length) h
  have hfold := length_le_foldChars s.toList
  simp only [quoted_toList, List.cons_append, List.length_cons, List.length_append,
    List.length_map] at hlength
  omega

private theorem participant_eq_self_iff {s : String} : participant s = s ↔ isPlain s := by
  rw [participant]
  split
  · rename_i hplain
    exact iff_of_true rfl hplain
  · rename_i hplain
    exact iff_of_false (quoted_ne_self s) hplain

private theorem participant_eq_quoted_iff {s : String} :
    participant s = quoted s ↔ ¬ isPlain s := by
  rw [participant]
  split
  · rename_i hplain
    exact iff_of_false (ne_quoted_of_isPlain hplain s) (not_not_intro hplain)
  · rename_i hplain
    exact iff_of_true rfl hplain

private theorem ne_inside_quoted {a b : String} (ha : isPlain a) (hb : ¬ isPlain b) :
    a ≠ inside (quoted b) := by
  intro h
  rw [inside_quoted] at h
  have hchars : a.toList = (foldChars b.toList).map softenQuote := by
    rw [h, String.toList_ofList]
  have hplain := isPlainChar_of_isPlain ha
  rw [hchars] at hplain
  rw [softened_eq_self hplain] at h
  rw [h, String.ofList_toList] at ha
  exact hb ha

/-- How the ways of printing a name compare. Participants are told apart bare and quoted alike, as
well as their keys tell them apart, and none stands bare as another stands between quotes. What is
inside of a closed name closes nothing and breaks no line, and prints as that name. Names in brackets
that print alike have the same key. -/
theorem printed_forms_compare :
    (∀ a b, (participant a = participant b ↔ quoted a = quoted b) ∧
      (quoted a = quoted b ↔ printKey .actors a = printKey .actors b)) ∧
    (∀ a b, participant a = a → participant b = quoted b → participant a ≠ inside (participant b)) ∧
    (∀ a, '"' ∉ (inside (quoted a)).toList ∧ Unbroken (inside (quoted a)) ∧
      quoted (inside (quoted a)) = quoted a) ∧
    (∀ a, '[' ∉ (inside (bracketed a)).toList ∧ ']' ∉ (inside (bracketed a)).toList ∧
      Unbroken (inside (bracketed a)) ∧ bracketed (inside (bracketed a)) = bracketed a) ∧
    ∀ a b, bracketed a = bracketed b → printKey .components a = printKey .components b := by
  refine ⟨fun a b => ⟨participant_eq_iff_quoted,
    quoted_eq_iff_printKey (by decide) (by decide)⟩, fun a b ha hb => ?_, fun a => ?_, fun a => ?_,
    fun a b => printKey_eq_of_bracketed⟩
  · rw [ha, hb]
    exact ne_inside_quoted (participant_eq_self_iff.mp ha) (participant_eq_quoted_iff.mp hb)
  · refine ⟨?_, ?_, quoted_inside a⟩
    · rw [inside_quoted, String.toList_ofList]
      exact quote_notMem_softened _
    · rw [inside_quoted, Unbroken, String.toList_ofList]
      exact softened_unbroken (fun _ => softenQuote_isBreak) a.toList
  · have hbrackets := brackets_notMem_softened (foldChars a.toList)
    refine ⟨?_, ?_, ?_, bracketed_inside a⟩
    · rw [inside_bracketed, String.toList_ofList]
      exact hbrackets.1
    · rw [inside_bracketed, String.toList_ofList]
      exact hbrackets.2
    · rw [inside_bracketed, Unbroken, String.toList_ofList]
      exact softened_unbroken (fun _ => softenBracket_isBreak) a.toList

/-- A name and the same name in quotes as participants, and two components that print alike. -/
theorem printed_forms_compare_quotes :
    participant "Ann" = "Ann" ∧ participant "\"Ann\"" = "\"'Ann'\"" ∧
      participant "Ann" ≠ inside (participant "\"Ann\"") ∧
      bracketed "a[b]" = bracketed "a(b)" ∧
      printKey .components "a[b]" = printKey .components "a(b)" := by
  have hbare : participant "Ann" = "Ann" := by decide
  have hquoted : participant "\"Ann\"" = quoted "\"Ann\"" := by decide
  have halike : bracketed "a[b]" = bracketed "a(b)" := by decide
  refine ⟨hbare, by decide, ?_, halike, printed_forms_compare.2.2.2.2 _ _ halike⟩
  exact printed_forms_compare.2.1 "Ann" "\"Ann\"" hbare hquoted

end UmlDiagrams.Text
