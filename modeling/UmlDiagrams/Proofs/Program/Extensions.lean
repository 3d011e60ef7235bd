import Mathlib.Data.List.TakeWhile
import UmlDiagrams.OutputFormat
import UmlDiagrams.Proofs.Program.Paths
import UmlDiagrams.Proofs.Text.Ascii
/-!
# Extensions of paths

The format of an output file is chosen by what follows the last dot in the last component of its
path, in any mix of upper and lower case, and by nothing else.
-/

namespace UmlDiagrams

namespace Path

variable {path name stem extension : List UInt8}

/-- The path is a name, with or without a directory in front, and with any number of slashes behind,
each alone or before a dot. -/
def EndsIn (path name : List UInt8) : Prop :=
  ∃ (front : List UInt8) (idle : List (List UInt8)),
    (front = [] ∨ ∃ directory, front = directory ++ [slash]) ∧ IsComponent name ∧
      (∀ part ∈ idle, part = [slash] ∨ part = [slash, dot]) ∧ path = front ++ name ++ idle.flatten

private theorem components_idle (path : List UInt8) {idle : List (List UInt8)}
    (h : ∀ part ∈ idle, part = [slash] ∨ part = [slash, dot]) :
    components (path ++ idle.flatten) = components path := by
  induction idle generalizing path with
  | nil => rw [List.flatten_nil, List.append_nil]
  | cons part idle ih =>
    rw [List.forall_mem_cons] at h
    rw [List.flatten_cons, ← List.append_assoc, ih _ h.2]
    rcases h.1 with rfl | rfl
    · exact (components_append path []).trans (List.append_nil _)
    · exact (components_append path [dot]).trans (List.append_nil _)

private theorem segments_flatMap (path : List UInt8) :
    (segments path).flatMap (slash :: ·) = slash :: path := by
  induction path with
  | nil => rfl
  | cons b path ih =>
    rw [segments]
    by_cases hb : b = slash
    · rw [if_pos hb, List.flatMap_cons, ih, hb, List.singleton_append]
    · rw [if_neg hb]
      cases hpieces : segments path with
      | nil => exact absurd hpieces (segments_ne_nil path)
      | cons piece pieces =>
        rw [hpieces, List.flatMap_cons, List.cons_append] at ih
        dsimp only
        rw [List.flatMap_cons, List.cons_append, List.cons_append, (List.cons.inj ih).2]

private theorem slash_notMem_segments (path : List UInt8) :
    ∀ piece ∈ segments path, slash ∉ piece := by
  induction path with
  | nil => simp [segments]
  | cons b path ih =>
    rw [segments]
    by_cases hb : b = slash
    · rw [if_pos hb, List.forall_mem_cons]
      exact ⟨List.not_mem_nil, ih⟩
    · rw [if_neg hb]
      cases hpieces : segments path with
      | nil => simpa using Ne.symm hb
      | cons piece pieces =>
        rw [hpieces, List.forall_mem_cons] at ih
        dsimp only
        rw [List.forall_mem_cons, List.mem_cons, not_or]
        exact ⟨⟨Ne.symm hb, ih.1⟩, ih.2⟩

private theorem segments_of_getLast? (h : (components path).getLast? = some name) :
    ∃ before after, segments path = before ++ name :: after ∧ IsComponent name ∧
      ∀ piece ∈ after, piece = [] ∨ piece = [dot] := by
  obtain ⟨others, hothers⟩ := List.getLast?_eq_some_iff.mp h
  rw [components, List.filter_eq_append_iff] at hothers
  obtain ⟨front, back, hpieces, -, hback⟩ := hothers
  rw [List.filter_eq_cons_iff] at hback
  obtain ⟨skipped, after, rfl, -, hname, hafter⟩ := hback
  refine ⟨front ++ skipped, after, by rw [hpieces, List.append_assoc], ?_, ?_⟩
  · have hmem : name ∈ segments path := by
      rw [hpieces]
      simp
    simp only [ne_eq, Bool.and_eq_true, decide_eq_true_eq] at hname
    exact ⟨slash_notMem_segments path name hmem, hname.1, hname.2⟩
  · intro piece hpiece
    have hidle := List.filter_eq_nil_iff.mp hafter piece hpiece
    simp only [ne_eq, Bool.and_eq_true, decide_eq_true_eq, not_and, not_not] at hidle
    exact or_iff_not_imp_left.mpr hidle

private theorem endsIn_iff : EndsIn path name ↔ (components path).getLast? = some name := by
  constructor
  · rintro ⟨front, idle, hfront, hname, hidle, rfl⟩
    rw [components_idle _ hidle]
    rcases hfront with rfl | ⟨directory, rfl⟩
    · rw [List.nil_append, hname.components_eq]
      rfl
    · rw [List.append_assoc, List.singleton_append, components_append, hname.components_eq,
        List.getLast?_append]
      rfl
  · intro h
    obtain ⟨before, after, hpieces, hname, hafter⟩ := segments_of_getLast? h
    -- The path is its pieces, each behind a slash, without the slash in front of all.
    have hpath := segments_flatMap path
    rw [hpieces, List.flatMap_append, List.flatMap_cons] at hpath
    have hidle : ∀ part ∈ after.map (slash :: ·), part = [slash] ∨ part = [slash, dot] := by
      simpa using hafter
    cases before with
    | nil =>
      refine ⟨[], after.map (slash :: ·), .inl rfl, hname, hidle, ?_⟩
      rw [← List.flatMap_def]
      exact (List.cons.inj hpath).2.symm
    | cons piece before =>
      refine ⟨piece ++ before.flatMap (slash :: ·) ++ [slash], after.map (slash :: ·),
        .inr ⟨_, rfl⟩, hname, hidle, ?_⟩
      rw [← (List.cons.inj hpath).2]
      simp [List.flatMap_def]

private theorem EndsIn.unique {other : List UInt8} (h : EndsIn path name)
    (hother : EndsIn path other) :
    other = name := by
  rw [endsIn_iff] at h hother
  exact Option.some.inj (hother.symm.trans h)

private theorem fileName?_eq_filter (path : List UInt8) :
    fileName? path = (components path).getLast?.filter (· ≠ [dot, dot]) := by
  rw [fileName?]
  cases (components path).getLast? with
  | none => rfl
  | some last =>
    by_cases hup : last = [dot, dot]
    · subst hup
      rfl
    · rw [Option.filter_some, if_pos (decide_eq_true hup)]
      exact congrArg (Option.bind · _) (if_pos hup)

private theorem fileName?_eq_some_iff :
    fileName? path = some name ↔ EndsIn path name ∧ name ≠ [dot, dot] := by
  rw [fileName?_eq_filter, Option.filter_eq_some_iff, endsIn_iff, decide_eq_true_eq]

def afterDot (name : List UInt8) : List UInt8 :=
  (name.reverse.takeWhile (· ≠ dot)).reverse

private theorem extension?_of_fileName? (h : fileName? path = some name) :
    extension? path =
      if (afterDot name).length + 1 < name.length then some (afterDot name) else none := by
  rw [extension?, h]
  by_cases hlength : (afterDot name).length + 1 < name.length
  · rw [if_pos hlength]
    exact congrArg (Option.bind · fun _ => some (afterDot name)) (if_pos hlength)
  · rw [if_neg hlength]
    exact congrArg (Option.bind · _) (if_neg hlength)

private theorem forall_reverse_ne_dot (h : dot ∉ name) : ∀ b ∈ name.reverse, decide (b ≠ dot) := by
  intro b hb
  rw [decide_eq_true_eq]
  rintro rfl
  exact h (List.mem_reverse.mp hb)

private theorem afterDot_append (stem : List UInt8) (h : dot ∉ extension) :
    afterDot (stem ++ dot :: extension) = extension := by
  rw [afterDot, List.reverse_append, List.reverse_cons, List.append_assoc,
    List.takeWhile_append_of_pos (forall_reverse_ne_dot h), List.singleton_append,
    List.takeWhile_cons_of_neg (by decide), List.append_nil, List.reverse_reverse]

private theorem afterDot_of_notMem (h : dot ∉ name) : afterDot name = name := by
  have hall : name.reverse.takeWhile (· ≠ dot) = name.reverse :=
    List.takeWhile_eq_self_iff.mpr (forall_reverse_ne_dot h)
  rw [afterDot, hall, List.reverse_reverse]

structure Extended (path stem extension : List UInt8) : Prop where
  endsIn : EndsIn path (stem ++ dot :: extension)
  nonempty : stem ≠ []
  noDot : dot ∉ extension

private theorem extension?_eq_some (h : Extended path stem extension)
    (hup : stem ++ dot :: extension ≠ [dot, dot]) : extension? path = some extension := by
  have hlength : extension.length + 1 < (stem ++ dot :: extension).length := by
    have hpos := List.length_pos_iff.mpr h.nonempty
    rw [List.length_append, List.length_cons]
    omega
  rw [extension?_of_fileName? (fileName?_eq_some_iff.mpr ⟨h.endsIn, hup⟩),
    afterDot_append stem h.noDot, if_pos hlength]

/-- A name has no extension when it leads up, or holds no dot but maybe in front. -/
private theorem extension?_eq_none (h : ∀ name, EndsIn path name →
      name = [dot, dot] ∨ dot ∉ name ∨ ∃ rest, name = dot :: rest ∧ dot ∉ rest) :
    extension? path = none := by
  cases hfile : fileName? path with
  | none =>
    rw [extension?, hfile]
    rfl
  | some name =>
    obtain ⟨hname, hup⟩ := fileName?_eq_some_iff.mp hfile
    rw [extension?_of_fileName? hfile]
    rcases h name hname with heq | hno | ⟨rest, rfl, hrest⟩
    · exact absurd heq hup
    · rw [afterDot_of_notMem hno, if_neg (by omega)]
    · have hafter : afterDot (dot :: rest) = rest := afterDot_append [] hrest
      rw [hafter, List.length_cons, if_neg (Nat.lt_irrefl _)]

private theorem extension?_of_up (h : Extended path stem extension)
    (hup : stem ++ dot :: extension = [dot, dot]) : extension? path = none ∧ extension = [] := by
  constructor
  · refine extension?_eq_none fun name hname => .inl ?_
    rw [← hup]
    exact h.endsIn.unique hname
  · have hlength := congrArg List.length hup
    rw [List.length_append, List.length_cons] at hlength
    have hpos := List.length_pos_iff.mpr h.nonempty
    simp only [List.length_cons, List.length_nil] at hlength
    rw [← List.length_eq_zero_iff]
    omega

def lowerByte (b : UInt8) : UInt8 :=
  if 65 ≤ b ∧ b ≤ 90 then b + 32 else b

def lowerText (s : String) : String :=
  String.ofList (s.toList.map Char.toLower)

private theorem lowerByte_of_le {b : UInt8} (h : 128 ≤ b.toNat) : lowerByte b = b := by
  have hletter : ¬ (65 ≤ b ∧ b ≤ 90) := by
    rintro ⟨-, hle⟩
    have hnat : b.toNat ≤ 90 := UInt8.le_iff_toNat_le.mp hle
    omega
  exact if_neg hletter

private theorem map_lowerByte_of_le {bytes : List UInt8} (h : ∀ b ∈ bytes, 128 ≤ b.toNat) :
    bytes.map lowerByte = bytes :=
  (List.map_congr_left fun b hb => lowerByte_of_le (h b hb)).trans (List.map_id bytes)

private theorem le_of_le_lowerByte {b : UInt8} (h : 128 ≤ (lowerByte b).toNat) : 128 ≤ b.toNat := by
  rw [lowerByte] at h
  split at h
  · rename_i hletter
    have hle : b.toNat ≤ 90 := UInt8.le_iff_toNat_le.mp hletter.2
    rw [UInt8.toNat_add] at h
    simp only [UInt8.reduceToNat] at h
    omega
  · exact h

private theorem le_of_mem_utf8EncodeChar {c : Char} (hc : 128 ≤ c.toNat) :
    ∀ b ∈ String.utf8EncodeChar c, 128 ≤ b.toNat := by
  have hval : ¬ c.val.toNat ≤ 127 := Nat.not_le.mpr hc
  simp only [String.utf8EncodeChar, hval, if_false]
  -- one case for each number of bytes
  split_ifs
  all_goals
    simp only [List.forall_mem_cons, List.not_mem_nil, false_implies, implies_true, and_true,
      UInt8.toNat_ofNat']
    omega

private theorem utf8EncodeChar_ofNat : ∀ n < 128, String.utf8EncodeChar (Char.ofNat n) =
    [UInt8.ofNat n] := by
  decide +kernel

private theorem utf8EncodeChar_toLower (c : Char) :
    String.utf8EncodeChar c.toLower = (String.utf8EncodeChar c).map lowerByte := by
  by_cases hc : c.toNat < 128
  · have htried : ∀ n < 128, String.utf8EncodeChar (Char.ofNat n).toLower =
        (String.utf8EncodeChar (Char.ofNat n)).map lowerByte := by
      decide +kernel
    have hn := htried c.toNat hc
    rwa [Char.ofNat_toNat] at hn
  · have hhigh := le_of_mem_utf8EncodeChar (Nat.le_of_not_lt hc)
    have hletter : ¬ (c.val ≥ 'A'.val ∧ c.val ≤ 'Z'.val) := by
      rintro ⟨-, hle⟩
      have hnat : c.toNat ≤ 90 := UInt32.le_iff_toNat_le.mp hle
      omega
    have hsame : c.toLower = c := dif_neg hletter
    rw [hsame, map_lowerByte_of_le hhigh]

private theorem ofText_lowerText (s : String) :
    ofText (lowerText s) = (ofText s).map lowerByte := by
  rw [ofText_eq, ofText_eq, lowerText, String.toList_ofList, List.flatMap_map, List.map_flatMap]
  congr 1
  funext c
  exact utf8EncodeChar_toLower c

private theorem exists_char_of_map_lowerByte {bytes : List UInt8} {c : Char}
    (h : bytes.map lowerByte = String.utf8EncodeChar c) :
    ∃ d, String.utf8EncodeChar d = bytes := by
  by_cases hc : c.toNat < 128
  · have hone := utf8EncodeChar_ofNat c.toNat hc
    rw [Char.ofNat_toNat] at hone
    rw [hone, List.map_eq_singleton_iff] at h
    obtain ⟨b, rfl, hb⟩ := h
    have hlow : b.toNat < 128 := by
      by_contra hhigh
      rw [lowerByte_of_le (Nat.le_of_not_lt hhigh)] at hb
      have hnat := congrArg UInt8.toNat hb
      rw [UInt8.toNat_ofNat'] at hnat
      omega
    exact ⟨Char.ofNat b.toNat, by rw [utf8EncodeChar_ofNat b.toNat hlow, UInt8.ofNat_toNat]⟩
  · have hhigh := le_of_mem_utf8EncodeChar (Nat.le_of_not_lt hc)
    rw [← h, List.forall_mem_map] at hhigh
    have hsame := map_lowerByte_of_le fun b hb => le_of_le_lowerByte (hhigh b hb)
    exact ⟨c, h.symm.trans hsame⟩

private theorem exists_chars_of_map_lowerByte {bytes : List UInt8} {cs : List Char}
    (h : bytes.map lowerByte = cs.flatMap String.utf8EncodeChar) :
    ∃ ds : List Char, ds.flatMap String.utf8EncodeChar = bytes := by
  induction cs generalizing bytes with
  | nil => exact ⟨[], (List.map_eq_nil_iff.mp h).symm⟩
  | cons c cs ih =>
    rw [List.flatMap_cons] at h
    obtain ⟨front, rest, rfl, hfront, hrest⟩ := List.map_eq_append_iff.mp h
    obtain ⟨d, rfl⟩ := exists_char_of_map_lowerByte hfront
    obtain ⟨ds, rfl⟩ := ih hrest
    exact ⟨d :: ds, rfl⟩

private theorem exists_text_of_map_lowerByte {bytes : List UInt8} {s : String}
    (h : bytes.map lowerByte = ofText s) : ∃ t, ofText t = bytes := by
  rw [ofText_eq] at h
  obtain ⟨ds, hds⟩ := exists_chars_of_map_lowerByte h
  exact ⟨String.ofList ds, by rw [ofText_eq, String.toList_ofList, hds]⟩

private theorem fromUTF8?_eq_some_iff {bytes : List UInt8} {s : String} :
    String.fromUTF8? ⟨bytes.toArray⟩ = some s ↔ ofText s = bytes := by
  rw [String.fromUTF8?]
  constructor
  · intro h
    split at h
    · cases h
      exact ofText_eq_toList _
    · cases h
  · rintro rfl
    have hbytes : (⟨(ofText s).toArray⟩ : ByteArray) = s.toByteArray := by
      rw [ofText_eq_toList]
    rw [hbytes, dif_pos s.isValidUTF8]
    rfl

private theorem textExtension?_eq_some_iff {word : String} (h : extension? path = some extension) :
    textExtension? path = some word ↔ extension.map lowerByte = ofText word := by
  have htext : textExtension? path =
      (String.fromUTF8? ⟨extension.toArray⟩).map lowerText := by
    rw [textExtension?, h, Option.map_eq_bind]
    rfl
  rw [htext, Option.map_eq_some_iff]
  constructor
  · rintro ⟨s, hs, rfl⟩
    rw [ofText_lowerText, fromUTF8?_eq_some_iff.mp hs]
  · intro hword
    obtain ⟨s, rfl⟩ := exists_text_of_map_lowerByte hword
    refine ⟨s, fromUTF8?_eq_some_iff.mpr rfl, ?_⟩
    rw [← ofText_inj, ofText_lowerText, hword]

private theorem textExtension?_eq_none (h : extension? path = none) :
    textExtension? path = none := by
  rw [textExtension?, h]
  rfl

end Path

namespace OutputFormat

open UmlDiagrams.Path

variable {path path' stem stem' extension extension' : List UInt8}

def words : OutputFormat → List String
  | source => ["puml", "plantuml", "txt"]
  | svg => ["svg"]
  | png => ["png"]
  | pdf => ["pdf"]

private theorem mem_words {word : String} {format : OutputFormat} :
    word ∈ format.words ↔ extensions.lookup word = some format := by
  constructor
  · intro h
    have hall : ∀ word ∈ format.words, extensions.lookup word = some format := by
      cases format <;> decide
    exact hall word h
  · intro h
    obtain ⟨front, back, hlist, -⟩ := List.lookup_eq_some_iff.mp h
    have hmem : (word, format) ∈ extensions := by
      rw [hlist]
      exact List.mem_append_right front List.mem_cons_self
    have hall : ∀ entry ∈ extensions, entry.1 ∈ entry.2.words := by decide
    exact hall _ hmem

private theorem ofPath_eq_ok_iff {format : OutputFormat} :
    ofPath path = .ok format ↔ ∃ word ∈ format.words, textExtension? path = some word := by
  rw [ofPath]
  cases textExtension? path with
  | none => simp
  | some word =>
    simp only [Option.some.injEq, exists_eq_right', mem_words]
    cases extensions.lookup word <;> simp

private theorem ofText_word_ne_nil {word : String} {format : OutputFormat}
    (h : word ∈ format.words) :
    ofText word ≠ [] := by
  have hall : ∀ word ∈ format.words, word ≠ "" := by
    cases format <;> decide
  have hempty : ofText "" = [] := by
    rw [ofText_eq]
    rfl
  rw [← hempty]
  exact fun heq => hall word h (ofText_inj.mp heq)

private theorem ofPath_of_extended (h : Extended path stem extension) (format : OutputFormat) :
    ofPath path = .ok format ↔ ∃ word ∈ format.words, extension.map lowerByte = ofText word := by
  rw [ofPath_eq_ok_iff]
  by_cases hup : stem ++ dot :: extension = [dot, dot]
  · -- The name leads up. It has no extension, and nothing follows its last dot.
    obtain ⟨hnone, rfl⟩ := extension?_of_up h hup
    rw [textExtension?_eq_none hnone]
    constructor
    · rintro ⟨word, -, hword⟩
      cases hword
    · rintro ⟨word, hword, heq⟩
      exact absurd heq.symm (ofText_word_ne_nil hword)
  · have hextension := extension?_eq_some h hup
    simp only [textExtension?_eq_some_iff hextension]

private theorem textExtension?_congr (h : Extended path stem extension)
    (h' : Extended path' stem' extension') (hup : stem ++ dot :: extension ≠ [dot, dot])
    (hup' : stem' ++ dot :: extension' ≠ [dot, dot])
    (hcase : extension'.map lowerByte = extension.map lowerByte) :
    textExtension? path' = textExtension? path := by
  have hextension := extension?_eq_some h hup
  have hextension' := extension?_eq_some h' hup'
  refine Option.ext fun word => ?_
  rw [textExtension?_eq_some_iff hextension', textExtension?_eq_some_iff hextension, hcase]

/-- The format follows from the last extension of the last component, whatever its case, its stem
and the directories. There is none when the component is missing or leads up, and when it holds no
dot but maybe in front. -/
theorem ofPath_by_extension :
    (∀ path stem extension, Extended path stem extension →
      (∀ format, ofPath path = .ok format ↔
        ∃ word ∈ format.words, extension.map lowerByte = ofText word) ∧
      ∀ path' stem' extension', Extended path' stem' extension' →
        stem ++ dot :: extension ≠ [dot, dot] → stem' ++ dot :: extension' ≠ [dot, dot] →
        extension'.map lowerByte = extension.map lowerByte → ofPath path' = ofPath path) ∧
    ∀ path, (∀ name, EndsIn path name →
        name = [dot, dot] ∨ dot ∉ name ∨ ∃ rest, name = dot :: rest ∧ dot ∉ rest) →
      ofPath path = .error .noExtension := by
  refine ⟨fun path stem extension h => ⟨ofPath_of_extended h, ?_⟩, ?_⟩
  · intro path' stem' extension' h' hup hup' hcase
    rw [ofPath, ofPath, textExtension?_congr h h' hup hup' hcase]
  · intro path h
    rw [ofPath, textExtension?_eq_none (extension?_eq_none h)]

/-- Dots in a directory and in the stem, capitals and a dot behind, and a dot in front only. -/
theorem ofPath_by_extension_dots :
    ofPath (ofText "a.b/x.tar.SvG/.") = .ok svg ∧
      ofPath (ofText "a.b/x.tar.SvG/.") = ofPath (ofText "y.svg") ∧
      ofPath (ofText "out.d/.hidden//") = .error .noExtension := by
  have hdotted : Extended (ofText "a.b/x.tar.SvG/.") (ofText "x.tar") (ofText "SvG") := by
    refine ⟨endsIn_iff.mpr ?_, ?_, ?_⟩ <;> simp only [ofText_eq] <;> decide +kernel
  have hplain : Extended (ofText "y.svg") (ofText "y") (ofText "svg") := by
    refine ⟨endsIn_iff.mpr ?_, ?_, ?_⟩ <;> simp only [ofText_eq] <;> decide +kernel
  have hhidden : EndsIn (ofText "out.d/.hidden//") (ofText ".hidden") := by
    refine endsIn_iff.mpr ?_
    simp only [ofText_eq]
    decide +kernel
  obtain ⟨hformat, hsame⟩ := ofPath_by_extension.1 _ _ _ hdotted
  refine ⟨(hformat svg).mpr ⟨"svg", List.mem_cons_self, ?_⟩, (hsame _ _ _ hplain ?_ ?_ ?_).symm,
    ofPath_by_extension.2 _ fun name hname => .inr (.inr ⟨ofText "hidden", ?_, ?_⟩)⟩
  case refine_5 =>
    rw [hhidden.unique hname]
    simp only [ofText_eq]
    decide +kernel
  all_goals
    simp only [ofText_eq]
    decide +kernel

end OutputFormat

end UmlDiagrams
