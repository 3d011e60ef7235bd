import UmlDiagrams.Proofs.Store.Style
import UmlDiagrams.Proofs.Text.Lines
import UmlDiagrams.Source
/-!
# The lines of diagram source

User text never breaks a line, so the lines of the source can be read off it: the colors in the
header, and the parts of the body around its blank line.
-/

namespace UmlDiagrams

open Text

@[simp] theorem unbroken_flagged {flag : Bool} {word : String} (h : Unbroken word) :
    Unbroken (flagged flag word) := by
  cases flag with
  | false => exact List.forall_mem_nil _
  | true => exact h

@[simp] theorem oneLine_flagged {flag : Bool} {word : String} (h : OneLine word) :
    OneLine (flagged flag word) := by
  cases flag with
  | false => exact List.not_mem_nil
  | true => exact h

@[simp] theorem unbroken_typeSuffix (type : String) : Unbroken (typeSuffix type) := by
  simp only [typeSuffix]
  split
  · exact List.forall_mem_nil _
  · exact unbroken_append.mpr ⟨by decide, unbroken_fold _⟩

@[simp] theorem unbroken_labelSuffix (label : String) : Unbroken (labelSuffix label) := by
  rw [labelSuffix]
  split
  · exact List.forall_mem_nil _
  · exact unbroken_append.mpr ⟨by decide, unbroken_fold _⟩

@[simp] theorem oneLine_labelSuffix (label : String) : OneLine (labelSuffix label) :=
  (unbroken_labelSuffix label).oneLine

private theorem Visibility.unbroken_symbol (v : Visibility) : Unbroken v.symbol := by
  cases v <;> decide

theorem ClassAttribute.unbroken_line (a : ClassAttribute) : Unbroken a.line := by
  have hsymbol := a.visibility.unbroken_symbol
  simp +decide [line, hsymbol]

theorem ClassMethod.unbroken_line (m : ClassMethod) : Unbroken m.line := by
  have hsymbol := m.visibility.unbroken_symbol
  simp +decide [line, hsymbol]

theorem EntityAttribute.unbroken_line (a : EntityAttribute) : Unbroken a.line := by
  simp +decide [line]

private theorem Color.char_of_isHex {cs : List Char} {c : Char} (h : isHex cs) (hc : c ∈ cs) :
    c = '#' ∨ isHexDigit c := by
  unfold isHex at h
  split at h
  · rename_i digits
    have hdigits := List.all_eq_true.mp (Bool.and_eq_true_iff.mp h).2
    exact (List.mem_cons.mp hc).imp_right (hdigits c)
  · cases h

private theorem Color.unbroken_of_parse {s value : String} (h : Color.parse s = .ok value) :
    Unbroken value := by
  have hcolor := (Color.parse_eq_ok.mp h).2
  intro c hc hbreak
  rcases Bool.or_eq_true_iff.mp hcolor with hhex | hname
  · have hchar := Color.char_of_isHex hhex hc
    rcases hbreak with rfl | rfl <;> revert hchar <;> decide
  · have hchar := List.all_eq_true.mp (Bool.and_eq_true_iff.mp hname).2 c hc
    rcases hbreak with rfl | rfl <;> revert hchar <;> decide

theorem Style.unbroken_header {s : Style} (h : s.Valid) : ∀ l ∈ s.header, Unbroken l := by
  have hbackground := Color.unbroken_of_parse h.background
  have htext := Color.unbroken_of_parse h.text
  have hprimary := Color.unbroken_of_parse h.primary
  simp +decide [header, hbackground, htext, hprimary]

private theorem Style.colors_of_header {s t : Style} (h : s.header = t.header) :
    s.background = t.background ∧ s.text = t.text ∧ s.primary = t.primary := by
  simp only [header, List.cons.injEq, String.append_right_inj] at h
  exact ⟨h.2.1, h.2.2.1, h.2.2.2.1⟩

/-- A body that can be read line by line: its first blank line ends the declarations. -/
structure Body.Readable (b : Body) : Prop where
  opening : ∀ l ∈ b.opening, OneLine l
  blocks : ∀ l ∈ b.blocks.flatten, OneLine l
  edges : ∀ l ∈ b.edges, OneLine l
  filled : "" ∉ b.blocks.flatten

namespace Body

variable {b c : Body}

private theorem Readable.oneLine (h : b.Readable) : ∀ l ∈ b.lines, OneLine l := by
  intro l hl
  simp only [lines, List.mem_append, List.mem_singleton] at hl
  rcases hl with ((hl | hl) | rfl) | hl
  · exact h.opening l hl
  · exact h.blocks l hl
  · exact List.not_mem_nil
  · exact h.edges l hl

theorem lines_inj (hb : b.Readable) (hc : c.Readable) (hlen : b.opening.length = c.opening.length)
    (h : b.lines = c.lines) :
    b.opening = c.opening ∧ b.blocks.flatten = c.blocks.flatten ∧ b.edges = c.edges := by
  have hlines (b : Body) : b.lines = b.opening ++ (b.blocks.flatten ++ "" :: b.edges) := by
    simp [lines]
  rw [hlines, hlines] at h
  obtain ⟨hopening, hrest⟩ := List.append_inj h hlen
  exact ⟨hopening, append_cons_inj hb.filled hc.filled hrest⟩

end Body

namespace Store

variable {s t : Store}

private theorem sourceLines_oneLine (hstyle : s.style.Valid) (hbody : (s.body s.kind).Readable) :
    ∀ l ∈ s.sourceLines, OneLine l := by
  intro l hl
  simp only [sourceLines, List.mem_append, List.mem_singleton] at hl
  rcases hl with (hl | hl) | rfl
  · exact (Style.unbroken_header hstyle l hl).oneLine
  · exact hbody.oneLine l hl
  · decide

/-- Stores with the same source have the same colors and the same lines in the body. -/
theorem source_parts (hs : s.style.Valid) (ht : t.style.Valid) (hsbody : (s.body s.kind).Readable)
    (htbody : (t.body t.kind).Readable) (h : s.source = t.source) :
    (s.style.background = t.style.background ∧ s.style.text = t.style.text ∧
      s.style.primary = t.style.primary) ∧ (s.body s.kind).lines = (t.body t.kind).lines := by
  have hlines : s.sourceLines = t.sourceLines :=
    join_lines_inj (sourceLines_oneLine hs hsbody) (sourceLines_oneLine ht htbody) h
  have hframe := (List.append_inj' hlines rfl).1
  obtain ⟨hheader, hbody⟩ := List.append_inj hframe rfl
  exact ⟨Style.colors_of_header hheader, hbody⟩

end Store

end UmlDiagrams
