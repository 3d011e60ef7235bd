import Mathlib.Data.List.Basic
/-!
# Replacing in texts

What the library's `String.replace` does with a text as its pattern, in terms of characters: from
left to right, each occurrence of the pattern that no earlier one overlaps gets the replacement.
-/

namespace UmlDiagrams.Text

open String (Slice)
open String.Slice.Pattern String.Slice.Pattern.Model
open String.Slice.Pattern.Model.ForwardStringSearcher

/-- Replaces the pattern, which is not empty, from left to right. -/
def replaceChars (pattern replacement : List Char) : List Char → List Char
  | [] => []
  | c :: cs =>
    if pattern <+: c :: cs then
      replacement ++ replaceChars pattern replacement (cs.drop (pattern.length - 1))
    else c :: replaceChars pattern replacement cs
termination_by cs => cs.length

section Characters

variable {pattern replacement : List Char}

theorem replaceChars_nil : replaceChars pattern replacement [] = [] := by
  rw [replaceChars]

theorem replaceChars_matched (hpattern : pattern ≠ []) (rest : List Char) :
    replaceChars pattern replacement (pattern ++ rest) =
      replacement ++ replaceChars pattern replacement rest := by
  obtain ⟨c, cs, rfl⟩ := List.exists_cons_of_ne_nil hpattern
  have hhere : c :: cs <+: c :: (cs ++ rest) := List.prefix_append (c :: cs) rest
  rw [List.cons_append, replaceChars, if_pos hhere, List.length_cons, Nat.add_sub_cancel,
    List.drop_left]

theorem replaceChars_passed {c : Char} {cs : List Char} (h : ¬ pattern <+: c :: cs) :
    replaceChars pattern replacement (c :: cs) = c :: replaceChars pattern replacement cs := by
  rw [replaceChars, if_neg h]

private theorem replaceChars_rejected {front rest : List Char}
    (h : ∀ passed ahead, front = passed ++ ahead → ahead ≠ [] → ¬ pattern <+: ahead ++ rest) :
    replaceChars pattern replacement (front ++ rest) =
      front ++ replaceChars pattern replacement rest := by
  induction front with
  | nil => rfl
  | cons c front ih =>
    have hhere : ¬ pattern <+: c :: (front ++ rest) := h [] (c :: front) rfl (List.cons_ne_nil _ _)
    have hlater : ∀ passed ahead, front = passed ++ ahead → ahead ≠ [] →
        ¬ pattern <+: ahead ++ rest := by
      rintro passed ahead rfl hahead
      exact h (c :: passed) ahead rfl hahead
    rw [List.cons_append, replaceChars_passed hhere, ih hlater, List.cons_append]

theorem replaceChars_singleton (a : Char) (replacement cs : List Char) :
    replaceChars [a] replacement cs = cs.flatMap fun c => if c = a then replacement else [c] := by
  induction cs with
  | nil => exact replaceChars_nil
  | cons c cs ih =>
    rw [List.flatMap_cons, ← ih]
    by_cases hc : c = a
    · subst hc
      rw [if_pos rfl]
      exact replaceChars_matched (List.cons_ne_nil c []) cs
    · have hnot : ¬ [a] <+: c :: cs := by
        simpa [List.cons_prefix_cons] using Ne.symm hc
      rw [if_neg hc, replaceChars_passed hnot, List.singleton_append]

end Characters

section Search

variable {s : Slice} {p : String} {start stop : s.Pos}

/-- Where a search passes over a text, no occurrence of the pattern starts. -/
private theorem not_prefix_of_rejected {done passed ahead rest : String}
    (hstart : start.Splits done (passed ++ ahead ++ rest))
    (hstop : stop.Splits (done ++ (passed ++ ahead)) rest) (hahead : ahead ≠ "")
    (hnone : ∀ pos, start ≤ pos → pos < stop → ¬ MatchesAt p pos) :
    ¬ p.toList <+: ahead.toList ++ rest.toList := by
  rintro ⟨after, hafter⟩
  have htext : ahead ++ rest = p ++ String.ofList after := by
    rw [← String.toList_inj]
    simp [hafter]
  have hcopy : s.copy = (done ++ passed) ++ (ahead ++ rest) := by
    rw [hstart.eq_append, String.append_assoc, String.append_assoc]
  have hhere := Slice.Pos.splits_ofEqAppend hcopy
  refine hnone (Slice.Pos.ofEqAppend hcopy) ?_ ?_ ?_
  · rw [hstart.le_iff_exists_eq_append hhere]
    exact ⟨passed, rfl, String.append_assoc⟩
  · rw [hhere.lt_iff_exists_eq_append hstop]
    exact ⟨ahead, hahead, String.append_assoc.symm, rfl⟩
  · exact matchesAt_iff_splits.mpr ⟨done ++ passed, String.ofList after, hhere.of_eq rfl htext⟩

def replaceStep (r sofar : String) : SearchStep s → String
  | .matched .. => sofar ++ String.ToSlice.toSlice r
  | .rejected start stop => sofar ++ s.slice! start stop

private theorem toList_replaceStep_matched (r sofar : String) :
    (replaceStep r sofar (.matched start stop)).toList = sofar.toList ++ r.toList := by
  have hcopy : (String.ToSlice.toSlice r).copy = r := String.copy_toSlice
  simp [replaceStep, hcopy]

private theorem toList_replaceStep_rejected (r sofar : String) {done front rest : String}
    (hstart : start.Splits done (front ++ rest)) (hstop : stop.Splits (done ++ front) rest) :
    (replaceStep r sofar (.rejected start stop)).toList = sofar.toList ++ front.toList := by
  obtain ⟨hle, hslice⟩ := Slice.copy_slice_eq_iff_splits.mpr ⟨done, rest, hstart, hstop⟩
  simp [replaceStep, ← Slice.slice_eq_slice! (h := hle), hslice]

/-- The steps from a position on replace what is left of the text there. -/
private theorem toList_foldl_replaceStep (hp : p ≠ "") (r : String) {pos : s.Pos}
    {steps : List (SearchStep s)} (h : IsValidSearchFrom p pos steps) {done rest : String}
    (hpos : pos.Splits done rest) (sofar : String) :
    (steps.foldl (replaceStep r) sofar).toList =
      sofar.toList ++ replaceChars p.toList r.toList rest.toList := by
  have hchars : p.toList ≠ [] := by simpa using hp
  induction h generalizing done rest sofar with
  | endPos =>
    have hrest : rest = "" := hpos.eq_right s.splits_endPos
    rw [hrest]
    simp [replaceChars_nil]
  | matched hmatch _ ih =>
    obtain ⟨before, after, hstart, hstop⟩ := isLongestMatchAt_iff_splits.mp hmatch
    rw [List.foldl_cons, ih hstop, toList_replaceStep_matched, hpos.eq_right hstart,
      String.toList_append, replaceChars_matched hchars, List.append_assoc]
  | @mismatched steps start stop hlt hnone _ ih =>
    have hstop := stop.splits
    obtain ⟨front, -, hdone, rfl⟩ := (hpos.lt_iff_exists_eq_append hstop).mp hlt
    rw [hdone] at hstop
    rw [List.foldl_cons, ih hstop, toList_replaceStep_rejected r sofar hpos hstop,
      String.toList_append, replaceChars_rejected, List.append_assoc]
    intro passed ahead heq hahead
    have hfront : front = String.ofList passed ++ String.ofList ahead := by
      rw [← String.toList_inj]
      simp [heq]
    rw [hfront] at hpos hstop
    have hnot := not_prefix_of_rejected hpos hstop (by simpa using hahead) hnone
    rwa [String.toList_ofList] at hnot

end Search

theorem toList_replace {p : String} (hp : p ≠ "") (s r : String) :
    (s.replace p r).toList = replaceChars p.toList r.toList s.toList := by
  have hvalid := (lawfulToForwardSearcherModel hp).isValidSearchFrom_toList s.toSlice
  have hsteps : s.replace p r =
      (ToForwardSearcher.toSearcher p s.toSlice).toList.foldl (replaceStep r) "" := by
    rw [Std.Iter.foldl_toList, String.replace, Slice.replace]
    congr 1
    funext sofar step
    cases step <;> rfl
  rw [hsteps, toList_foldl_replaceStep hp r hvalid s.toSlice.splits_startPos, String.copy_toSlice]
  rfl

end UmlDiagrams.Text
