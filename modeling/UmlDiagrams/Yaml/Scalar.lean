import UmlDiagrams.Yaml.Cell
/-!
# YAML scalars

The text that a scalar denotes: plain, in quotes, or as an indented block. Inside a scalar a gap of
blanks and line breaks is folded: blanks around line breaks vanish, a single line break becomes a
space, and of several the first one vanishes.
-/

namespace UmlDiagrams.Yaml

inductive Form where
  | plain | quoted | literal | folded
deriving DecidableEq, Repr

def foldBreaks : List Char → List Char
  | ['\n'] => [' ']
  | '\n' :: breaks => breaks
  | breaks => breaks

def foldGap (gap : List Char) : List Char :=
  if gap.any isBreak then foldBreaks (gap.filter isBreak) else gap

def flowMarks : List Char :=
  [',', '[', ']', '{', '}']

/-- Whether a plain scalar ends here. The gap is what comes before, if anything. -/
def plainEnds (flow : Bool) (indent : Nat) (gap : List Char) (cells : List Cell) : Bool :=
  let beforeWord := !gap.isEmpty && (startsWithAny ['#'] cells || (!flow &&
    cells.head?.any (·.column < indent)))
  beforeWord || atDocumentMarker cells || (startsWithAny [':'] cells && atGap (cells.drop 1)) ||
    (flow && startsWithAny flowMarks cells)

/-- The text of a plain scalar, whether a line break follows it, and what comes after the gap behind
it. Words of the scalar are indented by `indent` columns at least, unless it stands in brackets or
braces. -/
def plain? (flow : Bool) (indent : Nat) :
    List Char → List Cell → Option (List Char × Bool × List Cell)
  | gap, [] => some ([], gap.any isBreak, [])
  | gap, c :: rest =>
    if isBlank c.char then
      if c.char = '\t' ∧ gap.any isBreak ∧ c.column < indent then none
      else plain? flow indent (gap ++ [c.char]) rest
    else if isBreak c.char then plain? flow indent (gap ++ [c.char]) rest
    else if plainEnds flow indent gap (c :: rest) then some ([], gap.any isBreak, c :: rest)
    else if flow ∧ c.char = ':' ∧ startsWithAny ('?' :: flowMarks) rest then none
    else do
      let (text, broken, after) ← plain? flow indent [] rest
      return (foldGap gap ++ c.char :: text, broken, after)

/-- The text of a scalar in single quotes up to its closing quote, and what follows. A quote inside
is written twice. -/
def single? : List Char → List Cell → Option (List Char × List Cell)
  | _, [] => none
  | gap, c :: rest =>
    if isBlank c.char || isBreak c.char then single? (gap ++ [c.char]) rest
    else if atDocumentMarker (c :: rest) then none
    else if c.char ≠ '\'' then do
      let (text, after) ← single? [] rest
      return (foldGap gap ++ c.char :: text, after)
    else
      match rest with
      | d :: rest' =>
        if d.char = '\'' then do
          let (text, after) ← single? [] rest'
          return (foldGap gap ++ '\'' :: text, after)
        else some (foldGap gap, rest)
      | [] => some (foldGap gap, [])

def escapes : List (Char × Char) :=
  [('0', '\x00'), ('a', '\x07'), ('b', '\x08'), ('t', '\t'), ('\t', '\t'), ('n', '\n'),
    ('v', '\x0b'), ('f', '\x0c'), ('r', '\r'), ('e', '\x1b'), (' ', ' '), ('"', '"'), ('/', '/'),
    ('\\', '\\'), ('N', '\x85'), ('_', '\xa0'), ('L', '\u2028'), ('P', '\u2029')]

def escapeLengths : List (Char × Nat) :=
  [('x', 2), ('u', 4), ('U', 8)]

/-- The character of an escape, and the number of cells that it takes after the backslash. -/
def escape? : List Cell → Option (Char × Nat)
  | [] => none
  | c :: rest =>
    match escapeLengths.lookup c.char with
    | none => (escapes.lookup c.char).map (·, 1)
    | some n => do
      let digits := (rest.take n).map (·.char)
      guard (digits.length = n)
      let char ← (Text.hexNumber? digits).bind Text.charOfNat?
      return (char, n + 1)

/-- The text of a gap after an escaped line break, if `joined`, or of any other gap. -/
def foldAfter (joined : Bool) (gap : List Char) : List Char :=
  if joined then gap.filter isBreak else foldGap gap

def double? (joined : Bool) (gap : List Char) : List Cell → Option (List Char × List Cell)
  | [] => none
  | c :: rest =>
    if isBlank c.char || isBreak c.char then double? joined (gap ++ [c.char]) rest
    else if atDocumentMarker (c :: rest) then none
    else if c.char = '"' then some (foldAfter joined gap, rest)
    else if c.char ≠ '\\' then do
      let (text, after) ← double? false [] rest
      return (foldAfter joined gap ++ c.char :: text, after)
    else if (head? rest).any isBreak then do
      let (text, after) ← double? true [] (rest.drop 1)
      return (foldAfter joined gap ++ text, after)
    else do
      let (char, n) ← escape? rest
      let (text, after) ← double? false [] (rest.drop n)
      return (foldAfter joined gap ++ char :: text, after)
termination_by cells => cells.length
decreasing_by all_goals (simp only [List.length_cons, List.length_drop]; omega)

/-- What happens to the line breaks at the end of a block. -/
inductive Chomping where
  | strip | clip | keep
deriving DecidableEq, Repr

/-- The indicators after the mark of a block: chomping and indentation, in either order. -/
structure BlockHeader where
  chomping : Chomping := .clip
  /-- Columns relative to the surrounding block. -/
  indentation : Option Nat := none

def chomping? : List Cell → Option Chomping
  | [] => none
  | c :: _ => if c.char = '+' then some .keep else if c.char = '-' then some .strip else none

def digit? : List Cell → Option Nat
  | [] => none
  | c :: _ => if c.char.isDigit then some (c.char.toNat - '0'.toNat) else none

/-- The header of a block, and what follows its line. An indentation of zero is refused. -/
def blockHeader? (cells : List Cell) : Option (BlockHeader × List Cell) := do
  let chomping := chomping? cells
  let cells := if chomping.isSome then cells.drop 1 else cells
  let indentation := digit? cells
  let cells := if indentation.isSome then cells.drop 1 else cells
  let late := if chomping.isNone && indentation.isSome then chomping? cells else none
  let cells := if late.isSome then cells.drop 1 else cells
  guard (indentation ≠ some 0)
  return (⟨(chomping <|> late).getD .clip, indentation⟩, ← skipLineEnd? cells)

/-- The line breaks of empty lines, the greatest column in which a line has its first character
other than a space, and what comes next. Up to `indent` columns of a line are indentation; without
`indent` all spaces in front are. A tab is no indentation. -/
def emptyLines? (indent : Option Nat) : List Cell → Option (List Char × Nat × List Cell)
  | [] => some ([], 0, [])
  | c :: rest =>
    let indenting := indent.all (c.column < ·)
    if indenting && c.char == ' ' then emptyLines? indent rest
    else if indenting && c.char == '\t' then none
    else if isBreak c.char then do
      let (breaks, column, after) ← emptyLines? indent rest
      return (c.char :: breaks, max c.column column, after)
    else some ([], c.column, c :: rest)

private theorem emptyLines?_length {indent : Option Nat} {cells after : List Cell}
    {breaks : List Char} {column : Nat}
    (h : emptyLines? indent cells = some (breaks, column, after)) :
    after.length ≤ cells.length := by
  induction cells generalizing breaks column after with
  | nil =>
    cases h
    exact Nat.le_refl _
  | cons c rest ih =>
    rw [emptyLines?] at h
    simp only [Bool.and_eq_true, beq_iff_eq] at h
    split at h
    · exact Nat.le_succ_of_le (ih h)
    · split at h
      · cases h
      · split at h
        · obtain ⟨⟨b, n, a⟩, hb, h⟩ := Option.bind_eq_some_iff.mp h
          cases h
          exact Nat.le_succ_of_le (ih hb)
        · cases h
          exact Nat.le_refl _

/-- A block that has been read in part. -/
structure BlockText where
  text : List Char := []
  /-- The line break after the last line. -/
  lastBreak : List Char := []
  /-- The line breaks of empty lines after it. -/
  emptyBreaks : List Char := []
  /-- Whether the last line starts with a blank. -/
  indented : Bool := false

/-- Adds a line. A folded block has a space in place of a line break between two lines that do not
start with blanks. -/
def BlockText.addLine (b : BlockText) (folded : Bool) (line lastBreak emptyBreaks : List Char) :
    BlockText :=
  let indented := line.head?.any isBlank
  let between :=
    if folded && b.lastBreak == ['\n'] && !b.indented && !indented then
      if b.emptyBreaks.isEmpty then [' '] else []
    else b.lastBreak
  { text := b.text ++ between ++ b.emptyBreaks ++ line, lastBreak, emptyBreaks, indented }

def BlockText.chomped (b : BlockText) : Chomping → List Char
  | .strip => b.text
  | .clip => b.text ++ b.lastBreak
  | .keep => b.text ++ b.lastBreak ++ b.emptyBreaks

def blockLines? (folded : Bool) (indent : Nat) (b : BlockText) (cells : List Cell) :
    Option (BlockText × List Cell) :=
  match cells with
  | [] => some (b, [])
  | c :: rest =>
    if c.column = indent then
      let line := c :: rest.takeWhile (!isBreak ·.char)
      let after := rest.dropWhile (!isBreak ·.char)
      match _hempty : emptyLines? (some indent) (after.drop 1) with
      | none => none
      | some (breaks, _, after') =>
        let lastBreak := (after.take 1).map (·.char)
        blockLines? folded indent (b.addLine folded (line.map (·.char)) lastBreak breaks) after'
    else some (b, c :: rest)
termination_by cells.length
decreasing_by
  have h₁ : after'.length ≤ ((rest.dropWhile (!isBreak ·.char)).drop 1).length :=
    emptyLines?_length _hempty
  have h₂ := (List.dropWhile_suffix (!isBreak ·.char) (l := rest)).length_le
  simp only [List.length_drop, List.length_cons] at *
  omega

/-- The text of a block and what follows it. The surrounding block is indented by `outer - 1`
columns, and the text by one column more at least unless its header says otherwise. -/
def block? (folded : Bool) (outer : Nat) (cells : List Cell) :
    Option (List Char × List Cell) := do
  let (header, cells) ← blockHeader? cells
  let given := header.indentation.map (outer - 1 + ·)
  let (breaks, column, cells) ← emptyLines? given cells
  let indent := given.getD (max column (max outer 1))
  let (b, after) ← blockLines? folded indent { emptyBreaks := breaks } cells
  return (b.chomped header.chomping, after)

end UmlDiagrams.Yaml
