import UmlDiagrams.Proofs.Text.Lines
import UmlDiagrams.Proofs.Text.Replacing
/-!
# Folded text

Text is folded in one pass, which looks ahead for the line feed of a pair. The same comes out when
the three forms of a line break are replaced one after the other, pairs first. Texts can be folded
apart from each other unless a pair is cut between them.
-/

namespace UmlDiagrams.Text

/-- The pass that looks ahead does what three passes do. -/
private theorem foldChars_eq_replaceChars (cs : List Char) :
    foldChars cs = replaceChars ['\n'] ['\\', 'n']
      (replaceChars ['\r'] ['\\', 'n'] (replaceChars ['\r', '\n'] ['\\', 'n'] cs)) := by
  rw [replaceChars_singleton, replaceChars_singleton]
  induction cs using foldChars_induction with
  | nil => rw [replaceChars_nil, foldChars, List.flatMap_nil, List.flatMap_nil]
  | pair rest ih =>
    have hpair : replaceChars ['\r', '\n'] ['\\', 'n'] ('\r' :: '\n' :: rest) =
        ['\\', 'n'] ++ replaceChars ['\r', '\n'] ['\\', 'n'] rest :=
      replaceChars_matched (List.cons_ne_nil '\r' ['\n']) rest
    rw [foldChars_pair, ih, hpair, List.flatMap_append, List.flatMap_append]
    rfl
  | single c rest hpair ih =>
    have hpassed : ¬ ['\r', '\n'] <+: c :: rest := by
      rintro ⟨after, hafter⟩
      obtain ⟨hc, hrest⟩ := List.cons.inj hafter
      exact hpair ⟨hc.symm, by rw [← hrest]; rfl⟩
    rw [foldChars_single hpair, ih, replaceChars_passed hpassed, List.flatMap_cons,
      List.flatMap_append]
    congr 1
    by_cases hr : c = '\r'
    · subst hr
      rfl
    · by_cases hn : c = '\n'
      · subst hn
        rfl
      · have hbreak : ¬ IsBreak c := not_or.mpr ⟨hr, hn⟩
        rw [if_neg hbreak, if_neg hr, List.flatMap_singleton, if_neg hn]

private theorem fold_eq_replace (s : String) :
    fold s = ((s.replace "\r\n" "\\n").replace "\r" "\\n").replace "\n" "\\n" := by
  rw [← String.toList_inj, toList_replace (by decide), toList_replace (by decide),
    toList_replace (by decide), fold, String.toList_ofList, foldChars_eq_replaceChars]
  rfl

@[simp] theorem fold_fold (s : String) : fold (fold s) = fold s := by
  have hunbroken : Unbroken (fold s) := unbroken_fold s
  rw [fold, foldChars_of_unbroken hunbroken, String.ofList_toList]

private theorem foldChars_append {as bs : List Char}
    (h : ¬ (as.getLast? = some '\r' ∧ bs.head? = some '\n')) :
    foldChars (as ++ bs) = foldChars as ++ foldChars bs := by
  have hlast {c : Char} {cs : List Char} (hcs : cs.getLast? = some '\r') :
      (c :: cs).getLast? = some '\r' := by
    rw [List.getLast?_cons, hcs, Option.getD_some]
  induction as using foldChars_induction with
  | nil => rfl
  | pair rest ih =>
    have hrest : ¬ (rest.getLast? = some '\r' ∧ bs.head? = some '\n') :=
      fun hcut => h ⟨hlast (hlast hcut.1), hcut.2⟩
    rw [List.cons_append, List.cons_append, foldChars_pair, foldChars_pair, ih hrest,
      List.cons_append, List.cons_append]
  | single c rest hpair ih =>
    have hrest : ¬ (rest.getLast? = some '\r' ∧ bs.head? = some '\n') :=
      fun hcut => h ⟨hlast hcut.1, hcut.2⟩
    have hjoined : ¬ (c = '\r' ∧ (rest ++ bs).head? = some '\n') := by
      rintro ⟨rfl, hhead⟩
      cases rest with
      | nil => exact h ⟨rfl, hhead⟩
      | cons d rest => exact hpair ⟨rfl, hhead⟩
    rw [List.cons_append, foldChars_single hpair, foldChars_single hjoined, ih hrest,
      List.append_assoc]

private theorem foldChars_append_cut (as bs : List Char) :
    foldChars (as ++ ['\r']) ++ foldChars ('\n' :: bs) =
        foldChars as ++ ['\\', 'n'] ++ (['\\', 'n'] ++ foldChars bs) ∧
      foldChars (as ++ ['\r'] ++ '\n' :: bs) = foldChars as ++ (['\\', 'n'] ++ foldChars bs) := by
  have hlast : foldChars (as ++ ['\r']) = foldChars as ++ ['\\', 'n'] :=
    foldChars_append (by simp)
  have hhead : foldChars ('\n' :: bs) = ['\\', 'n'] ++ foldChars bs :=
    foldChars_single (by simp)
  refine ⟨by rw [hlast, hhead], ?_⟩
  rw [List.append_assoc, foldChars_append (by simp), List.singleton_append, foldChars_pair]
  rfl

private theorem fold_append_iff {a b : String} :
    fold (a ++ b) = fold a ++ fold b ↔ ¬ ∃ x y, a = x ++ "\r" ∧ b = "\n" ++ y := by
  have hchars : fold (a ++ b) = fold a ++ fold b ↔
      foldChars (a.toList ++ b.toList) = foldChars a.toList ++ foldChars b.toList := by
    rw [← String.toList_inj]
    simp [fold]
  rw [hchars]
  constructor
  · rintro h ⟨x, y, rfl, rfl⟩
    obtain ⟨hapart, htogether⟩ := foldChars_append_cut x.toList y.toList
    -- Together the pair takes two characters, and apart its halves take four.
    have hlength := congrArg List.length h
    rw [String.toList_append, String.toList_append] at hlength
    change (foldChars (x.toList ++ ['\r'] ++ '\n' :: y.toList)).length =
      (foldChars (x.toList ++ ['\r']) ++ foldChars ('\n' :: y.toList)).length at hlength
    rw [hapart, htogether] at hlength
    simp at hlength
  · intro h
    refine foldChars_append fun hcut => h ?_
    obtain ⟨xs, hx⟩ := List.getLast?_eq_some_iff.mp hcut.1
    obtain ⟨ys, hy⟩ := List.head?_eq_some_iff.mp hcut.2
    refine ⟨String.ofList xs, String.ofList ys, ?_, ?_⟩
    · rw [← String.toList_inj, hx]
      simp
    · rw [← String.toList_inj, hy]
      simp

/-- Folded text is the text with its pairs, then its carriage returns, then its line feeds replaced
by a backslash and an `n`. No part of a line break is left, so nothing is left to fold. Texts are
folded apart from each other unless the one ends and the other begins within a pair. -/
theorem fold_laws :
    (∀ s, fold s = ((s.replace "\r\n" "\\n").replace "\r" "\\n").replace "\n" "\\n" ∧
      Unbroken (fold s) ∧ fold (fold s) = fold s) ∧
    ∀ a b, fold (a ++ b) = fold a ++ fold b ↔ ¬ ∃ x y, a = x ++ "\r" ∧ b = "\n" ++ y :=
  ⟨fun s => ⟨fold_eq_replace s, unbroken_fold s, fold_fold s⟩, fun _ _ => fold_append_iff⟩

end UmlDiagrams.Text
