import Mathlib.Data.List.Basic
import UmlDiagrams.Program
import UmlDiagrams.Proofs.Program.Files

namespace UmlDiagrams

namespace Path

private theorem toListLoop_eq (bytes : ByteArray) (i : Nat) (front : List UInt8) :
    ByteArray.toList.loop bytes i front = front.reverse ++ bytes.data.toList.drop i := by
  induction i, front using ByteArray.toList.loop.induct bytes with
  | case1 i front hlt ih =>
    have hsize : i < bytes.data.toList.length := by simpa using hlt
    have hbyte : bytes.get! i = bytes.data.toList[i] := by
      rw [ByteArray.get!, Array.getElem_toList]
      exact getElem!_pos bytes.data i hlt
    rw [ByteArray.toList.loop, if_pos hlt, ih, List.reverse_cons, List.append_assoc, hbyte,
      List.drop_eq_getElem_cons hsize, List.singleton_append]
  | case2 i front hge =>
    have hsize : bytes.data.toList.length ≤ i := by simpa using hge
    rw [ByteArray.toList.loop, if_neg hge, List.drop_eq_nil_of_le hsize, List.append_nil]

theorem ofText_eq_toList (s : String) : ofText s = s.toByteArray.data.toList :=
  toListLoop_eq s.toByteArray 0 []

theorem ofText_eq (s : String) : ofText s = s.toList.flatMap String.utf8EncodeChar := by
  rw [ofText_eq_toList, ← String.utf8Encode_toList, List.utf8Encode, List.toList_data_toByteArray]

theorem ofText_inj {a b : String} : ofText a = ofText b ↔ a = b := by
  rw [ofText_eq_toList, ofText_eq_toList, Array.toList_inj, ← String.toByteArray_inj,
    ByteArray.ext_iff]

theorem ofText_append (a b : String) : ofText (a ++ b) = ofText a ++ ofText b := by
  rw [ofText_eq, ofText_eq, ofText_eq, String.toList_append, List.flatMap_append]

private theorem ofText_slash : ofText "/" = [slash] := by
  rw [ofText_eq]
  decide

theorem segments_ne_nil (path : List UInt8) : segments path ≠ [] := by
  cases path with
  | nil => exact List.cons_ne_nil _ _
  | cons b rest =>
    rw [segments]
    split
    · exact List.cons_ne_nil _ _
    · split <;> exact List.cons_ne_nil _ _

private theorem segments_append (front rest : List UInt8) :
    segments (front ++ slash :: rest) = segments front ++ segments rest := by
  induction front with
  | nil => rfl
  | cons b front ih =>
    rw [List.cons_append, segments, segments, ih]
    by_cases hb : b = slash
    · rw [if_pos hb, if_pos hb, List.cons_append]
    · rw [if_neg hb, if_neg hb]
      cases hfront : segments front with
      | nil => exact absurd hfront (segments_ne_nil front)
      | cons piece pieces => rfl

private theorem segments_of_notMem {name : List UInt8} (h : slash ∉ name) :
    segments name = [name] := by
  induction name with
  | nil => rfl
  | cons b name ih =>
    rw [List.mem_cons, not_or] at h
    rw [segments, if_neg (Ne.symm h.1), ih h.2]

theorem components_append (front rest : List UInt8) :
    components (front ++ slash :: rest) = components front ++ components rest := by
  rw [components, segments_append, List.filter_append]
  rfl

structure IsComponent (name : List UInt8) : Prop where
  noSlash : slash ∉ name
  nonempty : name ≠ []
  notHere : name ≠ [dot]

theorem IsComponent.components_eq {name : List UInt8} (h : IsComponent name) :
    components name = [name] := by
  rw [components, segments_of_notMem h.noSlash, List.filter_cons_of_pos, List.filter_nil]
  simp [h.nonempty, h.notHere]

private theorem steps_append (front rest : List UInt8) :
    steps (front ++ slash :: rest) = steps front ++ steps rest := by
  rw [steps, segments_append, List.filter_append]
  rfl

structure IsEntry (name : List UInt8) : Prop where
  noSlash : slash ∉ name
  nonempty : name ≠ []
  notHere : name ≠ [dot]
  notUp : name ≠ [dot, dot]

private theorem IsEntry.steps_eq {name : List UInt8} (h : IsEntry name) : steps name = [name] := by
  rw [steps, segments_of_notMem h.noSlash, List.filter_cons_of_pos, List.filter_nil]
  simp [h.nonempty]

private theorem IsEntry.components_eq {name : List UInt8} (h : IsEntry name) :
    components name = [name] :=
  IsComponent.components_eq ⟨h.noSlash, h.nonempty, h.notHere⟩

end Path

namespace Machine

open UmlDiagrams.Path

/-- The slash is put between the directory and the name unless the directory ends in one. -/
private theorem ofText_join (directory name : String) :
    ∃ front, ofText (join directory name) = front ++ slash :: ofText name ∧
      (ofText directory = front ∨ ofText directory = front ++ [slash]) := by
  rw [join]
  by_cases hslash : directory.toList.getLast? = some '/'
  · obtain ⟨chars, hchars⟩ := List.getLast?_eq_some_iff.mp hslash
    have hdirectory : directory = String.ofList chars ++ "/" := by
      rw [← String.toList_inj, hchars, String.toList_append, String.toList_ofList]
      rfl
    have hbytes : ofText directory = ofText (String.ofList chars) ++ [slash] := by
      rw [hdirectory, ofText_append, ofText_slash]
    refine ⟨ofText (String.ofList chars), ?_, .inr hbytes⟩
    rw [if_pos hslash, ofText_append, hbytes, List.append_assoc, List.singleton_append]
  · refine ⟨ofText directory, ?_, .inl rfl⟩
    rw [if_neg hslash, ofText_append, ofText_append, ofText_slash, List.append_assoc,
      List.singleton_append]

private theorem ofText_prefix_join (directory name : String) :
    ofText directory <+: ofText (join directory name) := by
  obtain ⟨front, hjoin, hdirectory⟩ := ofText_join directory name
  rw [hjoin]
  rcases hdirectory with hdirectory | hdirectory
  · rw [hdirectory]
    exact List.prefix_append _ _
  · rw [hdirectory]
    exact (List.prefix_append_right_inj front).mpr (List.prefix_append [slash] (ofText name))

/-- What does not count an empty piece of a path finds in a joined path what it finds in each. -/
private theorem pieces_join {pieces : List UInt8 → List (List UInt8)}
    (happend : ∀ front rest, pieces (front ++ slash :: rest) = pieces front ++ pieces rest)
    (hnil : pieces [] = []) (directory name : String) :
    pieces (ofText (join directory name)) = pieces (ofText directory) ++ pieces (ofText name) := by
  obtain ⟨front, hjoin, hdirectory⟩ := ofText_join directory name
  have hfront : pieces (ofText directory) = pieces front := by
    rcases hdirectory with hdirectory | hdirectory
    · rw [hdirectory]
    · rw [hdirectory, happend, hnil, List.append_nil]
  rw [hjoin, happend, hfront]

theorem components_join (directory : String) {name : String} (h : IsEntry (ofText name)) :
    components (ofText (join directory name)) = components (ofText directory) ++ [ofText name] := by
  rw [pieces_join components_append rfl, h.components_eq]

private theorem steps_join (directory : String) {name : String} (h : IsEntry (ofText name)) :
    steps (ofText (join directory name)) = steps (ofText directory) ++ [ofText name] := by
  rw [pieces_join steps_append rfl, h.steps_eq]

end Machine

namespace Files

open UmlDiagrams.Path

variable {f : Files} {place found : List (List UInt8)} {name : List UInt8}

private theorem step_of_isEntry (h : IsEntry name) : step place name = place ++ [name] := by
  rw [step, if_neg h.notHere, if_neg h.notUp]

/-- The last step of a walk goes from a place into one of its entries. -/
private theorem walk_append {steps start : List (List UInt8)} (hname : IsEntry name)
    (h : f.walk start (steps ++ [name]) = .ok found) :
    ∃ place, f.walk start steps = .ok place ∧ found = place ++ [name] := by
  induction steps generalizing start with
  | nil =>
    obtain ⟨-, -, -, hrest⟩ := walk_cons_eq_ok h
    rw [step_of_isEntry hname] at hrest
    cases hrest
    exact ⟨start, rfl, rfl⟩
  | cons step steps ih =>
    obtain ⟨hstart, henter, hlength, hrest⟩ := walk_cons_eq_ok h
    rw [walk_cons hstart henter hlength]
    exact ih hrest

private theorem ofText_ne_nil_of_isDirectory {directory : String} (h : f.isDirectory directory) :
    ofText directory ≠ [] := by
  intro hnil
  have hmissing : f.locate directory = .error .missing := by
    rw [locate, hnil]
    rfl
  rw [isDirectory, find, hmissing] at h
  cases h

private theorem locate_join {directory name : String} (hdirectory : f.isDirectory directory)
    (hname : IsEntry (ofText name)) (h : f.locate (Machine.join directory name) = .ok found) :
    ∃ place, f.locate directory = .ok place ∧ found = place ++ [ofText name] := by
  have hleads := Machine.ofText_prefix_join directory name
  have hne := ofText_ne_nil_of_isDirectory hdirectory
  have hhead : (ofText (Machine.join directory name)).head? = (ofText directory).head? := by
    obtain ⟨rest, hrest⟩ := hleads
    rw [← hrest, List.head?_append_of_ne_nil _ hne]
  obtain ⟨hzero, hlength, -, hwalk⟩ := locate_eq_ok h
  rw [Machine.steps_join directory hname, hhead] at hwalk
  rw [locate_of (fun hm => hzero (hleads.subset hm)) (Nat.lt_of_le_of_lt hleads.length_le hlength) hne]
  exact walk_append hname hwalk

theorem target_join {directory name : String} (hdirectory : f.isDirectory directory)
    (hname : IsEntry (ofText name)) (h : f.target (Machine.join directory name) = .ok found) :
    ∃ place, f.locate directory = .ok place ∧ found = place ++ [ofText name] :=
  locate_join hdirectory hname (target_eq_ok h).1

end Files

end UmlDiagrams
