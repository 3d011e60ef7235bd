import UmlDiagrams.Text.Hex
/-!
# Characters of YAML text

A text is a list of cells: characters with their places in lines. All usual line breaks are the same
character there.
-/

namespace UmlDiagrams.Yaml

def allowedRanges : List (Nat × Nat) :=
  [(0x09, 0x0A), (0x0D, 0x0D), (0x20, 0x7E), (0x85, 0x85), (0xA0, 0xD7FF), (0xE000, 0xFFFD),
    (0x10000, 0x10FFFF)]

def isAllowed (c : Char) : Bool :=
  allowedRanges.any fun (lo, hi) => lo ≤ c.toNat && c.toNat ≤ hi

/-- Writes a pair of return and line feed, a return alone and a next-line character as a line
feed. -/
def unifyBreaks : List Char → List Char
  | [] => []
  | '\r' :: '\n' :: rest => '\n' :: unifyBreaks rest
  | c :: rest => (if c = '\r' ∨ c = '\x85' then '\n' else c) :: unifyBreaks rest

def isBlank (c : Char) : Bool :=
  c == ' ' || c == '\t'

/-- Line breaks: the line feed, the line separator and the paragraph separator. -/
def isBreak (c : Char) : Bool :=
  c == '\n' || c == '\u2028' || c == '\u2029'

/-- Letters, digits, hyphens and underscores of ASCII. -/
def isWordChar (c : Char) : Bool :=
  c.isAlphanum || c == '-' || c == '_'

structure Cell where
  char : Char
  line : Nat
  column : Nat
  /-- The number of bytes before it in its line. -/
  offset : Nat
deriving DecidableEq, Repr

def cellsFrom (line column offset : Nat) : List Char → List Cell
  | [] => []
  | c :: rest =>
    ⟨c, line, column, offset⟩ ::
      if isBreak c then cellsFrom (line + 1) 0 0 rest
      else cellsFrom line (column + 1) (offset + c.utf8Size) rest

def cells? (s : String) : Option (List Cell) :=
  if s.toList.all isAllowed then some (cellsFrom 0 0 0 (unifyBreaks s.toList)) else none

def head? (cells : List Cell) : Option Char :=
  cells.head?.map (·.char)

def startsWithAny (chars : List Char) (cells : List Cell) : Bool :=
  (head? cells).any chars.contains

def atLineEnd (cells : List Cell) : Bool :=
  (head? cells).all isBreak

def atGap (cells : List Cell) : Bool :=
  (head? cells).all fun c => isBlank c || isBreak c

/-- Whether a text starts at the start of a line, with three times this character and a gap. -/
def isMarker (mark : Char) : List Cell → Bool
  | a :: b :: c :: rest =>
    a.column == 0 && a.char == mark && b.char == mark && c.char == mark && atGap rest
  | _ => false

def atDocumentMarker (cells : List Cell) : Bool :=
  isMarker '-' cells || isMarker '.' cells

def spanChars (p : Char → Bool) (cells : List Cell) : List Char × List Cell :=
  ((cells.takeWhile (p ·.char)).map (·.char), cells.dropWhile (p ·.char))

def skipBlanks (cells : List Cell) : List Cell :=
  cells.dropWhile (isBlank ·.char)

/-- What follows the rest of a line that holds only blanks and a comment, and its line break. -/
def skipLineEnd? (cells : List Cell) : Option (List Cell) :=
  let cells := skipBlanks cells
  let cells := if startsWithAny ['#'] cells then cells.dropWhile (!isBreak ·.char) else cells
  if atLineEnd cells then some (cells.drop 1) else none

end UmlDiagrams.Yaml
