import UmlDiagrams.Proofs.Text.Lines
import UmlDiagrams.Proofs.Text.Printed
/-!
# The ends of printed names

A printed name can be cut off the text in which it stands: a quoted or bracketed name is closed by a
character that it does not hold, and a bare name by the first character that none can hold.
-/

namespace UmlDiagrams.Text

variable {α : Type}

def isPlainChar (c : Char) : Bool :=
  c.isAlphanum || c == '_'

def Breaks (s : String) : Prop :=
  s.toList.head?.any isPlainChar = false

instance (s : String) : Decidable (Breaks s) :=
  inferInstanceAs (Decidable (s.toList.head?.any isPlainChar = false))

theorem breaks_append {a : String} (hne : a ≠ "") (ha : Breaks a) (b : String) :
    Breaks (a ++ b) := by
  have hchars : a.toList ≠ [] := fun hnil => hne (String.toList_inj.mp hnil)
  rw [Breaks, String.toList_append, List.head?_append_of_ne_nil _ hchars]
  exact ha

def OneWord (s : String) : Prop :=
  OneLine s ∧ ' ' ∉ s.toList

instance (s : String) : Decidable (OneWord s) :=
  inferInstanceAs (Decidable (OneLine s ∧ ' ' ∉ s.toList))

theorem OneWord.append_inj {a b x y : String} (ha : OneWord a) (hb : OneWord b)
    (h : a ++ (" " ++ x) = b ++ (" " ++ y)) : a = b ∧ x = y := by
  have hchars : a.toList ++ ' ' :: x.toList = b.toList ++ ' ' :: y.toList := by
    have hlists := congrArg String.toList h
    simpa using hlists
  obtain ⟨hhead, htail⟩ := append_cons_inj ha.2 hb.2 hchars
  exact ⟨String.toList_inj.mp hhead, String.toList_inj.mp htail⟩

/-- What `print` writes can be told from what follows it, as long as a break follows. -/
structure IsToken (print : α → String) : Prop where
  filled : ∀ a, print a ≠ ""
  oneLine : ∀ a, OneLine (print a)
  ends : ∀ {a b : α} {x y : String}, Breaks x → Breaks y → print a ++ x = print b ++ y →
    print a = print b ∧ x = y

theorem IsToken.comp {β : Type} {print : α → String} (h : IsToken print) (name : β → α) :
    IsToken fun b => print (name b) where
  filled b := h.filled (name b)
  oneLine b := h.oneLine (name b)
  ends hx hy := h.ends hx hy

private theorem closed_append_inj {print : α → String} {inner : α → List Char} {first last : Char}
    (hprint : ∀ a, (print a).toList = first :: inner a ++ [last]) (hinner : ∀ a, last ∉ inner a)
    {a b : α} {x y : String} (h : print a ++ x = print b ++ y) : print a = print b ∧ x = y := by
  have hchars : inner a ++ last :: x.toList = inner b ++ last :: y.toList := by
    have hlists := congrArg String.toList h
    simpa [hprint] using hlists
  obtain ⟨hhead, htail⟩ := append_cons_inj (hinner a) (hinner b) hchars
  refine ⟨?_, String.toList_inj.mp htail⟩
  rw [← String.toList_inj, hprint, hprint, hhead]

theorem softenQuote_ne (c : Char) : softenQuote c ≠ '"' := by
  rw [softenQuote]
  split
  · decide
  · rename_i hne
    exact hne

theorem softenBracket_ne (c : Char) : softenBracket c ≠ '[' ∧ softenBracket c ≠ ']' := by
  rw [softenBracket]
  split
  · decide
  · split
    · decide
    · rename_i hleft hright
      exact ⟨hleft, hright⟩

theorem quote_notMem_softened (cs : List Char) : '"' ∉ cs.map softenQuote := by
  intro hm
  obtain ⟨c, -, hc⟩ := List.mem_map.mp hm
  exact softenQuote_ne c hc

theorem brackets_notMem_softened (cs : List Char) :
    '[' ∉ cs.map softenBracket ∧ ']' ∉ cs.map softenBracket := by
  constructor <;> intro hm <;> obtain ⟨c, -, hc⟩ := List.mem_map.mp hm
  · exact (softenBracket_ne c).1 hc
  · exact (softenBracket_ne c).2 hc

theorem quoted_toList (s : String) :
    (quoted s).toList = '"' :: (foldChars s.toList).map softenQuote ++ ['"'] :=
  String.toList_ofList

theorem bracketed_toList (s : String) :
    (bracketed s).toList = '[' :: (foldChars s.toList).map softenBracket ++ [']'] :=
  String.toList_ofList

theorem quoted_ne_empty (s : String) : quoted s ≠ "" := by
  intro h
  have hchars := congrArg String.toList h
  rw [quoted_toList] at hchars
  cases hchars

theorem bracketed_ne_empty (s : String) : bracketed s ≠ "" := by
  intro h
  have hchars := congrArg String.toList h
  rw [bracketed_toList] at hchars
  cases hchars

private theorem quoted_append_inj {a b x y : String} (h : quoted a ++ x = quoted b ++ y) :
    quoted a = quoted b ∧ x = y :=
  closed_append_inj quoted_toList (fun _ => quote_notMem_softened _) h

theorem quoted_isToken : IsToken quoted where
  filled := quoted_ne_empty
  oneLine := oneLine_quoted
  ends _ _ h := quoted_append_inj h

theorem bracketed_isToken : IsToken bracketed where
  filled := bracketed_ne_empty
  oneLine := oneLine_bracketed
  ends _ _ h := closed_append_inj bracketed_toList (fun _ => (brackets_notMem_softened _).2) h

theorem not_isBlank_of_isPlainChar {c : Char} (h : isPlainChar c) : ¬ isBlank c := by
  change ((((65 ≤ c.val ∧ c.val ≤ 90 : Bool) || (97 ≤ c.val && c.val ≤ 122)) ||
    (48 ≤ c.val && c.val ≤ 57)) || c == '_') = true at h
  simp only [Bool.or_eq_true, Bool.and_eq_true, decide_eq_true_eq, beq_iff_eq,
    UInt32.le_iff_toNat_le] at h
  change (((65 ≤ c.toNat ∧ c.toNat ≤ 90) ∨ (97 ≤ c.toNat ∧ c.toNat ≤ 122)) ∨
    (48 ≤ c.toNat ∧ c.toNat ≤ 57)) ∨ c = '_' at h
  rcases h with h | rfl
  · simp [isBlank, blankRanges]
    omega
  · decide

theorem isPlainChar_of_isPlain {s : String} (h : isPlain s) : ∀ c ∈ s.toList, isPlainChar c :=
  List.all_eq_true.mp (Bool.and_eq_true_iff.mp h).2

private theorem takeWhile_of_breaks {x : String} (h : Breaks x) :
    x.toList.takeWhile isPlainChar = [] := by
  cases hx : x.toList with
  | nil => rfl
  | cons c cs =>
    have hc : isPlainChar c = false := by
      rw [Breaks, hx] at h
      exact h
    exact List.takeWhile_cons_of_neg (by rw [hc]; exact Bool.false_ne_true)

private theorem takeWhile_plain {s x : String} (hs : isPlain s) (hx : Breaks x) :
    (s ++ x).toList.takeWhile isPlainChar = s.toList := by
  rw [String.toList_append, List.takeWhile_append_of_pos (isPlainChar_of_isPlain hs),
    takeWhile_of_breaks hx, List.append_nil]

/-- No text starts with a bare name and with a quoted one. -/
private theorem plain_append_ne_quoted_append {s : String} (hs : isPlain s) (t x y : String) :
    s ++ x ≠ quoted t ++ y := by
  intro h
  have hchars := congrArg String.toList h
  rw [String.toList_append, String.toList_append, quoted_toList] at hchars
  cases hlist : s.toList with
  | nil =>
    have hempty : s = "" := String.toList_inj.mp hlist
    rw [hempty] at hs
    exact absurd hs (by decide)
  | cons c cs =>
    rw [hlist] at hchars
    have hc : c = '"' := (List.cons.inj hchars).1
    have hm : '"' ∈ s.toList := by
      rw [hlist, hc]
      exact List.mem_cons_self
    exact quote_notMem_of_isPlain hs hm

/-- Softening would leave a trace in a name that is not plain. -/
theorem softened_eq_self {cs : List Char}
    (h : ∀ c ∈ (foldChars cs).map softenQuote, isPlainChar c) :
    (foldChars cs).map softenQuote = cs := by
  have hbackslash : '\\' ∉ foldChars cs := fun hm =>
    absurd (h '\\' (List.mem_map.mpr ⟨'\\', hm, by decide⟩)) (by decide)
  rw [foldChars_eq_self hbackslash] at h ⊢
  conv_rhs => rw [← List.map_id cs]
  apply List.map_congr_left
  intro c hc
  have hplain := h _ (List.mem_map_of_mem hc)
  rw [softenQuote] at hplain ⊢
  split at hplain
  · exact absurd hplain (by decide)
  · rename_i hne
    rw [if_neg hne, id]

private theorem softened_of_isPlain {s : String} (h : isPlain s) :
    (foldChars s.toList).map softenQuote = s.toList := by
  have hunbroken : ∀ c ∈ s.toList, ¬ IsBreak c := by
    intro c hc hbreak
    have hplain := isPlainChar_of_isPlain h c hc
    rcases hbreak with rfl | rfl <;> revert hplain <;> decide
  rw [foldChars_of_unbroken hunbroken]
  conv_rhs => rw [← List.map_id s.toList]
  apply List.map_congr_left
  intro c hc
  have hquote : c ≠ '"' := fun heq => quote_notMem_of_isPlain h (heq ▸ hc)
  rw [softenQuote, if_neg hquote, id]

private theorem eq_of_quoted_eq {a b : String} (ha : isPlain a) (h : quoted a = quoted b) :
    a = b := by
  rw [quoted_eq_iff, softened_of_isPlain ha] at h
  have hplain := isPlainChar_of_isPlain ha
  rw [h] at hplain
  rw [softened_eq_self hplain] at h
  exact String.toList_inj.mp h

theorem participant_eq_iff_quoted {a b : String} :
    participant a = participant b ↔ quoted a = quoted b := by
  constructor
  · intro h
    exact (quoted_eq_iff_printKey (c := .actors) (by decide) (by decide)).mpr
      (printKey_eq_of_participant .actors h)
  · intro h
    by_cases ha : isPlain a
    · rw [eq_of_quoted_eq ha h]
    · by_cases hb : isPlain b
      · rw [eq_of_quoted_eq hb h.symm]
      · rw [participant, participant, if_neg ha, if_neg hb, h]

theorem participant_ne_empty (s : String) : participant s ≠ "" := by
  rw [participant]
  split
  · rename_i hplain
    rintro rfl
    exact absurd hplain (by decide)
  · exact quoted_ne_empty s

private theorem participant_append_inj {a b x y : String} (hx : Breaks x) (hy : Breaks y)
    (h : participant a ++ x = participant b ++ y) : participant a = participant b ∧ x = y := by
  simp only [participant] at h ⊢
  by_cases ha : isPlain a
  · by_cases hb : isPlain b
    · rw [if_pos ha, if_pos hb] at h ⊢
      have hname : a = b := by
        rw [← String.toList_inj, ← takeWhile_plain ha hx, h, takeWhile_plain hb hy]
      rw [hname] at h
      exact ⟨hname, (String.append_right_inj b).mp h⟩
    · rw [if_pos ha, if_neg hb] at h
      exact absurd h (plain_append_ne_quoted_append ha b x y)
  · by_cases hb : isPlain b
    · rw [if_neg ha, if_pos hb] at h
      exact absurd h.symm (plain_append_ne_quoted_append hb a y x)
    · rw [if_neg ha, if_neg hb] at h ⊢
      exact quoted_append_inj h

theorem participant_isToken : IsToken participant where
  filled := participant_ne_empty
  oneLine := oneLine_participant
  ends hx hy h := participant_append_inj hx hy h

end UmlDiagrams.Text
