import Mathlib.Data.List.Basic
import UmlDiagrams.Proofs.Text.Trim
import UmlDiagrams.Text.Printed
/-!
# Text in lines

Lines that hold no line feed can be told apart after they have been joined, and folded text holds
none.
-/

namespace UmlDiagrams

variable {α : Type}

theorem append_cons_inj {mark : α} {xs ys us vs : List α} (hx : mark ∉ xs) (hy : mark ∉ ys)
    (h : xs ++ mark :: us = ys ++ mark :: vs) : xs = ys ∧ us = vs := by
  induction xs generalizing ys with
  | nil =>
    cases ys with
    | nil => exact ⟨rfl, (List.cons.inj h).2⟩
    | cons y ys => exact absurd ((List.cons.inj h).1 ▸ List.mem_cons_self) hy
  | cons x xs ih =>
    have hxs : mark ∉ xs := fun hm => hx (List.mem_cons_of_mem _ hm)
    cases ys with
    | nil => exact absurd ((List.cons.inj h).1 ▸ List.mem_cons_self) hx
    | cons y ys =>
      have hys : mark ∉ ys := fun hm => hy (List.mem_cons_of_mem _ hm)
      obtain ⟨hhead, htail⟩ := List.cons.inj h
      obtain ⟨hsplit, hrest⟩ := ih hxs hys htail
      exact ⟨by rw [hhead, hsplit], hrest⟩

/-- Where the marks stand in a list that is split at its first mark. -/
theorem getElem?_eq_mark_iff {mark : α} {xs ys : List α} (hx : mark ∉ xs) {i : Nat} :
    (xs ++ mark :: ys)[i]? = some mark ↔
      i = xs.length ∨ ∃ j, i = xs.length + 1 + j ∧ ys[j]? = some mark := by
  rcases Nat.lt_trichotomy i xs.length with hlt | heq | hgt
  · rw [List.getElem?_append_left hlt]
    constructor
    · exact fun h => absurd (List.mem_of_getElem? h) hx
    · rintro (h | ⟨j, h, -⟩) <;> omega
  · subst heq
    simp
  · obtain ⟨j, rfl⟩ := Nat.exists_eq_add_of_le (Nat.succ_le_of_lt hgt)
    have hright : (xs ++ mark :: ys)[xs.length.succ + j]? = ys[j]? := by
      rw [List.getElem?_append_right (by omega)]
      have hsub : xs.length.succ + j - xs.length = j + 1 := by omega
      rw [hsub, List.getElem?_cons_succ]
    rw [hright]
    constructor
    · exact fun h => .inr ⟨j, rfl, h⟩
    · rintro (h | ⟨k, h, hk⟩)
      · omega
      · have hjk : j = k := by omega
        rwa [hjk]

theorem flatMap_marked_inj {mark : α} {ls ms : List (List α)} (hl : ∀ l ∈ ls, mark ∉ l)
    (hm : ∀ m ∈ ms, mark ∉ m)
    (h : (ls.flatMap fun l => l ++ [mark]) = ms.flatMap fun m => m ++ [mark]) : ls = ms := by
  induction ls generalizing ms with
  | nil =>
    cases ms with
    | nil => rfl
    | cons m ms => simp at h
  | cons l ls ih =>
    cases ms with
    | nil => simp at h
    | cons m ms =>
      rw [List.forall_mem_cons] at hl hm
      rw [List.flatMap_cons, List.flatMap_cons, List.append_assoc, List.append_assoc] at h
      obtain ⟨hhead, htail⟩ := append_cons_inj hl.1 hm.1 h
      rw [hhead, ih hl.2 hm.2 htail]

namespace Text

def OneLine (s : String) : Prop :=
  '\n' ∉ s.toList

instance (s : String) : Decidable (OneLine s) :=
  inferInstanceAs (Decidable ('\n' ∉ s.toList))

@[simp] theorem oneLine_append {a b : String} : OneLine (a ++ b) ↔ OneLine a ∧ OneLine b := by
  rw [OneLine, String.toList_append, List.mem_append, not_or]
  rfl

def IsBreak (c : Char) : Prop :=
  c = '\r' ∨ c = '\n'

instance (c : Char) : Decidable (IsBreak c) :=
  inferInstanceAs (Decidable (c = '\r' ∨ c = '\n'))

/-- Text without any part of a line break. -/
def Unbroken (s : String) : Prop :=
  ∀ c ∈ s.toList, ¬ IsBreak c

instance (s : String) : Decidable (Unbroken s) :=
  List.decidableBAll (fun c => ¬ IsBreak c) s.toList

theorem Unbroken.oneLine {s : String} (h : Unbroken s) : OneLine s :=
  fun hm => h '\n' hm (.inr rfl)

@[simp] theorem unbroken_append {a b : String} : Unbroken (a ++ b) ↔ Unbroken a ∧ Unbroken b := by
  rw [Unbroken, String.toList_append, List.forall_mem_append]
  rfl

theorem foldChars_pair (rest : List Char) :
    foldChars ('\r' :: '\n' :: rest) = '\\' :: 'n' :: foldChars rest := by
  rw [foldChars]

theorem foldChars_single {c : Char} {rest : List Char}
    (h : ¬ (c = '\r' ∧ rest.head? = some '\n')) :
    foldChars (c :: rest) = (if IsBreak c then ['\\', 'n'] else [c]) ++ foldChars rest := by
  have hpair : ∀ after, c = '\r' → rest = '\n' :: after → False := by
    rintro after rfl rfl
    exact h ⟨rfl, rfl⟩
  rw [foldChars]
  · by_cases hc : IsBreak c
    · rw [if_pos hc]
      exact if_pos hc
    · rw [if_neg hc]
      exact if_neg hc
  · exact hpair

/-- Folding takes a text apart into CRLF pairs and single characters. -/
theorem foldChars_induction {motive : List Char → Prop} (nil : motive [])
    (pair : ∀ rest, motive rest → motive ('\r' :: '\n' :: rest))
    (single : ∀ c rest, ¬ (c = '\r' ∧ rest.head? = some '\n') → motive rest →
      motive (c :: rest)) (cs : List Char) : motive cs := by
  induction cs using foldChars.induct with
  | case1 => exact nil
  | case2 rest ih => exact pair rest ih
  | case3 c rest hpair _ ih | case4 c rest hpair _ ih =>
    refine single c rest ?_ ih
    rintro ⟨hc, hhead⟩
    obtain ⟨after, hrest⟩ := List.head?_eq_some_iff.mp hhead
    exact hpair after hc hrest

theorem foldChars_unbroken (cs : List Char) : ∀ c ∈ foldChars cs, ¬ IsBreak c := by
  induction cs using foldChars_induction with
  | nil => exact List.forall_mem_nil _
  | pair rest ih =>
    rw [foldChars_pair, List.forall_mem_cons, List.forall_mem_cons]
    exact ⟨by decide, by decide, ih⟩
  | single c rest hpair ih =>
    rw [foldChars_single hpair, List.forall_mem_append]
    refine ⟨?_, ih⟩
    by_cases hc : IsBreak c
    · rw [if_pos hc, List.forall_mem_cons, List.forall_mem_singleton]
      exact ⟨by decide, by decide⟩
    · rwa [if_neg hc, List.forall_mem_singleton]

/-- Folding writes a backslash for every break, and leaves the rest. -/
theorem foldChars_eq_self {cs : List Char} (h : '\\' ∉ foldChars cs) : foldChars cs = cs := by
  induction cs using foldChars_induction with
  | nil => rfl
  | pair rest ih =>
    rw [foldChars_pair] at h
    exact absurd List.mem_cons_self h
  | single c rest hpair ih =>
    rw [foldChars_single hpair] at h ⊢
    by_cases hc : IsBreak c
    · rw [if_pos hc] at h
      exact absurd List.mem_cons_self h
    · rw [if_neg hc] at h ⊢
      rw [ih fun hm => h (List.mem_append_right _ hm), List.singleton_append]

theorem foldChars_of_unbroken {cs : List Char} (h : ∀ c ∈ cs, ¬ IsBreak c) :
    foldChars cs = cs := by
  induction cs using foldChars_induction with
  | nil => rfl
  | pair rest ih => exact absurd (.inl rfl) (h '\r' List.mem_cons_self)
  | single c rest hpair ih =>
    rw [List.forall_mem_cons] at h
    rw [foldChars_single hpair, if_neg h.1, ih h.2, List.singleton_append]

@[simp] theorem unbroken_fold (s : String) : Unbroken (fold s) := by
  rw [Unbroken, fold, String.toList_ofList]
  exact foldChars_unbroken s.toList

private theorem unbroken_enclosed {soften : Char → Char}
    (h : ∀ c, ¬ IsBreak c → ¬ IsBreak (soften c)) {first last : Char} (hfirst : ¬ IsBreak first)
    (hlast : ¬ IsBreak last) (cs : List Char) :
    Unbroken (String.ofList (first :: (foldChars cs).map soften ++ [last])) := by
  rw [Unbroken, String.toList_ofList, List.forall_mem_append, List.forall_mem_cons,
    List.forall_mem_singleton, List.forall_mem_map]
  exact ⟨⟨hfirst, fun c hc => h c (foldChars_unbroken cs c hc)⟩, hlast⟩

theorem softenQuote_isBreak {c : Char} (h : ¬ IsBreak c) : ¬ IsBreak (softenQuote c) := by
  rw [softenQuote]
  split
  · decide
  · exact h

theorem softenBracket_isBreak {c : Char} (h : ¬ IsBreak c) : ¬ IsBreak (softenBracket c) := by
  rw [softenBracket]
  split
  · decide
  · split
    · decide
    · exact h

@[simp] theorem unbroken_quoted (s : String) : Unbroken (quoted s) :=
  unbroken_enclosed (fun _ => softenQuote_isBreak) (by decide) (by decide) s.toList

@[simp] theorem unbroken_bracketed (s : String) : Unbroken (bracketed s) :=
  unbroken_enclosed (fun _ => softenBracket_isBreak) (by decide) (by decide) s.toList

@[simp] theorem unbroken_participant (s : String) : Unbroken (participant s) := by
  rw [participant]
  split
  · rename_i hplain
    intro c hc hbreak
    have hchar := List.all_eq_true.mp (Bool.and_eq_true_iff.mp hplain).2 c hc
    rcases hbreak with rfl | rfl <;> revert hchar <;> decide
  · exact unbroken_quoted s

@[simp] theorem oneLine_fold (s : String) : OneLine (fold s) :=
  (unbroken_fold s).oneLine

@[simp] theorem oneLine_quoted (s : String) : OneLine (quoted s) :=
  (unbroken_quoted s).oneLine

@[simp] theorem oneLine_bracketed (s : String) : OneLine (bracketed s) :=
  (unbroken_bracketed s).oneLine

@[simp] theorem oneLine_participant (s : String) : OneLine (participant s) :=
  (unbroken_participant s).oneLine

/-- The lines of a text that ends with a line feed, without their line feeds. -/
def splitLines (s : String) : List String :=
  (s.toList.splitOn '\n').dropLast.map String.ofList

private theorem splitLines_append {l : String} (hl : OneLine l) (s : String) :
    splitLines (l ++ "\n" ++ s) = l :: splitLines s := by
  have hchars : (l ++ "\n" ++ s).toList = l.toList ++ '\n' :: s.toList := by simp
  rw [splitLines, hchars, List.splitOn_append_cons_self_of_not_mem hl,
    List.dropLast_cons_of_ne_nil (List.splitOn_ne_nil _ _), List.map_cons, String.ofList_toList]
  rfl

theorem splitLines_break (s t : String) :
    splitLines (s ++ "\n" ++ t) = splitLines (s ++ "\n") ++ splitLines t := by
  have hchars (t : String) : (s ++ "\n" ++ t).toList = s.toList ++ '\n' :: t.toList := by simp
  have hends : (s ++ "\n").toList = s.toList ++ '\n' :: [] := by simp
  rw [splitLines, splitLines, splitLines, hchars, hends, List.splitOn_append_cons_self,
    List.splitOn_append_cons_self, List.dropLast_append_of_ne_nil (List.splitOn_ne_nil _ _),
    List.splitOn_nil, List.dropLast_concat, List.map_append]

private theorem splitLines_empty : splitLines "" = [] :=
  rfl

theorem splitLines_join_append {ls : List String} (hl : ∀ l ∈ ls, OneLine l) (s : String) :
    splitLines (String.join (ls.map (· ++ "\n")) ++ s) = ls ++ splitLines s := by
  induction ls with
  | nil => simp
  | cons l ls ih =>
    rw [List.forall_mem_cons] at hl
    rw [List.map_cons, String.join_cons, String.append_assoc, splitLines_append hl.1, ih hl.2,
      List.cons_append]

theorem splitLines_join {ls : List String} (hl : ∀ l ∈ ls, OneLine l) :
    splitLines (String.join (ls.map (· ++ "\n"))) = ls := by
  have hlines := splitLines_join_append hl ""
  rwa [String.append_empty, splitLines_empty, List.append_nil] at hlines

theorem carriageReturn_notMem_join {ls : List String} (hl : ∀ l ∈ ls, Unbroken l) :
    '\r' ∉ (String.join (ls.map (· ++ "\n"))).toList := by
  rw [String.toList_join, List.mem_flatMap]
  rintro ⟨line, hline, hm⟩
  obtain ⟨l, hmem, rfl⟩ := List.mem_map.mp hline
  rw [String.toList_append, List.mem_append] at hm
  rcases hm with hm | hm
  · exact hl l hmem '\r' hm (.inl rfl)
  · revert hm
    decide

theorem join_lines_inj {ls ms : List String} (hl : ∀ l ∈ ls, OneLine l) (hm : ∀ m ∈ ms, OneLine m)
    (h : String.join (ls.map (· ++ "\n")) = String.join (ms.map (· ++ "\n"))) : ls = ms := by
  rw [← splitLines_join hl, h, splitLines_join hm]

end Text

end UmlDiagrams
