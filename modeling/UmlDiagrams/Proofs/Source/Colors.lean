import UmlDiagrams.Proofs.Source.Lines
import UmlDiagrams.Proofs.Text.Ascii
/-!
# Colors in the source

A text is a color by its characters alone, and no blank is among them. A color therefore stays one
word, wherever the header writes it.
-/

namespace UmlDiagrams

namespace Text

variable {a b : String}

def words (s : String) : List String :=
  ((s.toList.splitOnP isBlank).filter (!·.isEmpty)).map String.ofList

private theorem words_append_blank (a b : String) : words (a ++ " " ++ b) = words a ++ words b := by
  have hchars : (a ++ " " ++ b).toList = a.toList ++ ' ' :: b.toList := by simp
  rw [words, hchars, List.splitOnP_append_cons _ _ (by decide), List.filter_append, List.map_append,
    words, words]

private theorem words_eq_singleton (hne : a ≠ "") (h : ∀ c ∈ a.toList, isBlank c = false) :
    words a = [a] := by
  have hfilled : a.toList.isEmpty = false := by
    rw [List.isEmpty_eq_false_iff]
    exact fun hnil => hne (String.toList_inj.mp hnil)
  rw [words, List.splitOnP_eq_singleton h, List.filter_cons_of_pos (by rw [hfilled]; rfl)]
  exact congrArg (fun s => [s]) String.ofList_toList

end Text

open Text

namespace Color

variable {cs : List Char} {s value : String}

/-- How a color is written. -/
inductive Written : List Char → Prop where
  | hex {digits : List Char} (length : digits.length = 3 ∨ digits.length = 6)
      (digit : ∀ d ∈ digits, d ∈ hexDigits) : Written ('#' :: digits)
  | name {cs : List Char} (nonempty : cs ≠ []) (letter : ∀ c ∈ cs, c ∈ letters) : Written cs

private theorem isHexDigit_ascii (c : Char) (h : isHexDigit c) : c.toNat < 128 := by
  simp only [isHexDigit, Char.isDigit, Bool.or_eq_true, Bool.and_eq_true,
    decide_eq_true_eq, ge_iff_le, Char.le_def, UInt32.le_iff_toNat_le] at h
  change ((48 ≤ c.toNat ∧ c.toNat ≤ 57) ∨ (97 ≤ c.toNat ∧ c.toNat ≤ 102)) ∨
    (65 ≤ c.toNat ∧ c.toNat ≤ 70) at h
  omega

private theorem isHexDigit_iff (c : Char) : isHexDigit c ↔ c ∈ hexDigits :=
  iff_mem_of_ascii isHexDigit_ascii (forall_mem_of_all (by decide)) (by decide +kernel) c

private theorem all_isHexDigit {digits : List Char} :
    digits.all isHexDigit ↔ ∀ d ∈ digits, d ∈ hexDigits := by
  rw [List.all_eq_true]
  exact forall₂_congr fun d _ => isHexDigit_iff d

/-- The bytes are as many as the digits, as soon as the digits are digits. -/
private theorem isHex_iff :
    isHex cs ↔ ∃ digits, cs = '#' :: digits ∧ (digits.length = 3 ∨ digits.length = 6) ∧
      ∀ d ∈ digits, d ∈ hexDigits := by
  have hbytes {digits : List Char} (h : ∀ d ∈ digits, d ∈ hexDigits) :
      (String.ofList digits).utf8ByteSize = digits.length :=
    utf8ByteSize_ofList fun d hd => isHexDigit_ascii d ((isHexDigit_iff d).mpr (h d hd))
  constructor
  · intro h
    unfold isHex at h
    split at h
    · rename_i digits
      simp only [Bool.and_eq_true, Bool.or_eq_true, beq_iff_eq, all_isHexDigit] at h
      obtain ⟨hsize, hdigits⟩ := h
      rw [hbytes hdigits] at hsize
      exact ⟨digits, rfl, hsize, hdigits⟩
    · cases h
  · rintro ⟨digits, rfl, hlength, hdigits⟩
    simp only [isHex, Bool.and_eq_true, Bool.or_eq_true, beq_iff_eq, all_isHexDigit]
    rw [hbytes hdigits]
    exact ⟨hlength, hdigits⟩

private theorem isName_iff : isName cs ↔ cs ≠ [] ∧ ∀ c ∈ cs, c ∈ letters := by
  rw [isName, Bool.and_eq_true, List.all_eq_true, Bool.not_eq_true', List.isEmpty_eq_false_iff]
  exact and_congr Iff.rfl (forall₂_congr fun c _ => isAlpha_iff c)

private theorem isColor_iff : isColor s ↔ Written s.toList := by
  rw [isColor, Bool.or_eq_true, isHex_iff, isName_iff]
  constructor
  · rintro (⟨digits, hchars, hlength, hdigits⟩ | ⟨hne, hletters⟩)
    · rw [hchars]
      exact .hex hlength hdigits
    · exact .name hne hletters
  · intro h
    generalize s.toList = cs at h
    cases h with
    | hex hlength hdigits => exact .inl ⟨_, rfl, hlength, hdigits⟩
    | name hne hletters => exact .inr ⟨hne, hletters⟩

private theorem Written.ne_nil (h : Written cs) : cs ≠ [] := by
  cases h with
  | hex => exact List.cons_ne_nil _ _
  | name hne => exact hne

private theorem Written.mem {c : Char} (h : Written cs) (hc : c ∈ cs) :
    c ∈ letters ∨ c ∈ hexDigits ∨ c = '#' := by
  cases h with
  | hex _ hdigits =>
    rcases List.mem_cons.mp hc with hmark | hdigit
    · exact .inr (.inr hmark)
    · exact .inr (.inl (hdigits c hdigit))
  | name _ hletters => exact .inl (hletters c hc)

private theorem Written.plain {c : Char} (h : Written cs) (hc : c ∈ cs) :
    c.toNat < 128 ∧ isBlank c = false := by
  have hletter : ∀ c ∈ letters, c.toNat < 128 ∧ isBlank c = false :=
    forall_mem_of_all (by decide)
  have hdigit : ∀ c ∈ hexDigits, c.toNat < 128 ∧ isBlank c = false :=
    forall_mem_of_all (by decide)
  rcases h.mem hc with hm | hm | rfl
  · exact hletter c hm
  · exact hdigit c hm
  · decide

private theorem parse_eq_ok_iff :
    parse s = .ok value ↔ value = trim s ∧ Written (trim s).toList := by
  rw [parse_eq_ok]
  constructor
  · rintro ⟨rfl, hcolor⟩
    exact ⟨rfl, isColor_iff.mp hcolor⟩
  · rintro ⟨rfl, hwritten⟩
    exact ⟨rfl, isColor_iff.mpr hwritten⟩

private theorem parse_eq_error_iff {e : Rejection} :
    parse s = .error e ↔ e = .invalidColor (trim s) ∧ ¬ Written (trim s).toList := by
  by_cases hwritten : Written (trim s).toList
  · rw [parse_eq_ok_iff.mpr ⟨rfl, hwritten⟩]
    constructor
    · intro h
      cases h
    · intro h
      exact absurd hwritten h.2
  · have hrejected : parse s = .error (.invalidColor (trim s)) :=
      if_neg fun hcolor => hwritten (isColor_iff.mp hcolor)
    rw [hrejected, Except.error.injEq, eq_comm]
    exact (and_iff_left hwritten).symm

private theorem written_of_parse (h : parse s = .ok value) : Written value.toList :=
  isColor_iff.mp (parse_eq_ok.mp h).2

private theorem words_of_parse (h : parse s = .ok value) : words value = [value] := by
  have hwritten := written_of_parse h
  have hne : value ≠ "" := by
    rintro rfl
    exact hwritten.ne_nil rfl
  exact words_eq_singleton hne fun c hc => (hwritten.plain hc).2

end Color

/-- A line of the header that gives a color to a part of the drawing. -/
structure Directive where
  part : String
  color : String
deriving DecidableEq, Repr

def Directive.line (d : Directive) : String :=
  "skinparam " ++ d.part ++ " " ++ d.color

def Style.directives (s : Style) : List Directive :=
  [⟨"backgroundColor", s.background⟩, ⟨"defaultFontColor", s.text⟩, ⟨"ArrowColor", s.primary⟩,
    ⟨"BorderColor", s.primary⟩]

private theorem Style.header_eq (s : Style) :
    s.header = "@startuml" :: s.directives.map Directive.line ++ [""] :=
  rfl

private theorem Style.words_line {s : Style} {d : Directive} (hd : d ∈ s.directives)
    (hcolor : words d.color = [d.color]) : words d.line = ["skinparam", d.part, d.color] := by
  have hparts : ∀ part ∈ s.directives.map Directive.part,
      words ("skinparam " ++ part) = ["skinparam", part] := by
    change ∀ part ∈ ["backgroundColor", "defaultFontColor", "ArrowColor", "BorderColor"], _
    decide
  rw [Directive.line, words_append_blank, hparts d.part (List.mem_map_of_mem hd), hcolor]
  rfl

private theorem Style.valid_of_directives {s : Style}
    (h : ∀ d ∈ s.directives, ∃ raw, Color.parse raw = .ok d.color) : s.Valid := by
  simp only [directives, List.forall_mem_cons] at h
  obtain ⟨⟨_, hbackground⟩, ⟨_, htext⟩, ⟨_, hprimary⟩, -⟩ := h
  exact ⟨Color.parse_of_parse hbackground, Color.parse_of_parse htext,
    Color.parse_of_parse hprimary⟩

/-- The header stands in the source line by line, whatever is drawn below it. -/
private theorem Store.splitLines_source_header {s : Store} (h : s.style.Valid) :
    ∃ rest, splitLines s.source = s.style.header ++ rest := by
  have hheader : ∀ l ∈ s.style.header, OneLine l :=
    fun l hl => (Style.unbroken_header h l hl).oneLine
  rw [source, sourceLines, List.append_assoc, List.map_append, String.join_append,
    splitLines_join_append hheader]
  exact ⟨_, rfl⟩

/-- Trimmed text in the form of a color is a color, and other text is none. A color is one word of
its line, wherever the header of a store writes it. -/
theorem Color.parse_decided :
    (∀ s : String,
      (∀ value, parse s = .ok value ↔ value = trim s ∧ Written (trim s).toList) ∧
      (∀ e, parse s = .error e ↔ e = .invalidColor (trim s) ∧ ¬ Written (trim s).toList) ∧
      (∀ c ∈ (trim s).toList, 128 ≤ c.toNat ∨ IsBreak c →
        parse s = .error (.invalidColor (trim s))) ∧
      ∀ value, parse s = .ok value → parse value = .ok value ∧
        ∀ c ∈ value.toList, c ∈ letters ∨ c ∈ hexDigits ∨ c = '#') ∧
    ∀ t : Store, (∀ d ∈ t.style.directives, ∃ s, parse s = .ok d.color) →
      (splitLines t.source).take 6 = "@startuml" :: t.style.directives.map Directive.line ++ [""] ∧
      ∀ d ∈ t.style.directives, Unbroken d.line ∧ words d.line = ["skinparam", d.part, d.color] := by
  constructor
  · intro s
    refine ⟨fun value => parse_eq_ok_iff, fun e => parse_eq_error_iff, fun c hc hforeign => ?_,
      fun value h => ⟨parse_of_parse h, fun c hc => (written_of_parse h).mem hc⟩⟩
    apply parse_eq_error_iff.mpr
    refine ⟨rfl, fun hwritten => ?_⟩
    obtain ⟨hascii, hblank⟩ := hwritten.plain hc
    rcases hforeign with hforeign | rfl | rfl
    · exact Nat.not_lt.mpr hforeign hascii
    · exact absurd hblank (by decide)
    · exact absurd hblank (by decide)
  · intro t h
    have hvalid := Style.valid_of_directives h
    obtain ⟨rest, hlines⟩ := Store.splitLines_source_header hvalid
    constructor
    · rw [hlines, ← Style.header_eq]
      rfl
    · intro d hd
      obtain ⟨s, hs⟩ := h d hd
      have hline : d.line ∈ t.style.header := by
        rw [Style.header_eq]
        exact List.mem_append_left _ (List.mem_cons_of_mem _ (List.mem_map_of_mem hd))
      exact ⟨Style.unbroken_header hvalid d.line hline, Style.words_line hd (words_of_parse hs)⟩

/-- A color between blanks, a text that would add a line to the header, and the colors every store
begins with. -/
theorem Color.parse_decided_default :
    (parse " #1E88E5\t" = .ok "#1E88E5" ∧ parse "#1E88E5" = .ok "#1E88E5") ∧
    parse "red\nskinparam" = .error (.invalidColor "red\nskinparam") ∧
    (∀ d ∈ Style.directives {}, parse d.color = .ok d.color) ∧
    (splitLines (Store.source {})).take 6 =
      "@startuml" :: (Style.directives {}).map Directive.line ++ [""] := by
  have hpadded : parse " #1E88E5\t" = .ok "#1E88E5" :=
    ((parse_decided.1 " #1E88E5\t").1 "#1E88E5").mpr
      ⟨by decide, .hex (.inr (by decide)) (forall_mem_of_all (by decide))⟩
  have hbroken : parse "red\nskinparam" = .error (.invalidColor "red\nskinparam") :=
    (parse_decided.1 "red\nskinparam").2.2.1 '\n' (by decide) (by decide)
  have hdefault : ∀ d ∈ Style.directives {}, parse d.color = .ok d.color := by decide
  exact ⟨⟨hpadded, ((parse_decided.1 _).2.2.2 _ hpadded).1⟩, hbroken, hdefault,
    (parse_decided.2 {} fun d hd => ⟨d.color, hdefault d hd⟩).1⟩

end UmlDiagrams
