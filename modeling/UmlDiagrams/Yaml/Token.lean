import UmlDiagrams.Yaml.Scalar
import UmlDiagrams.Yaml.Tag
/-!
# YAML tokens

The words of YAML text, together with the start and end of every block, which only indentation
shows. A word may turn out to be a key when the colon behind it is read; then the key mark and the
start of the block that it opens go in front of it.
-/

namespace UmlDiagrams.Yaml

inductive Token where
  | directive (directive : Directive)
  | documentStart | documentEnd | textEnd
  | listStart | tableStart | blockEnd
  | openBracket | closeBracket | openBrace | closeBrace
  | dash | comma | key | value
  | alias (name : String)
  | anchor (name : String)
  | tag (tag : TagName)
  | scalar (form : Form) (text : String)
deriving DecidableEq, Repr

/-- A place where a key may start. -/
structure KeyPlace where
  /-- The number of tokens before it. -/
  position : Nat
  line : Nat
  column : Nat
  /-- The number of bytes before it in its line. -/
  offset : Nat
  /-- Whether a key has to stand here, because the block is a table. -/
  required : Bool
deriving DecidableEq, Repr

/-- A text that has been divided into tokens in part. -/
structure Scan where
  cells : List Cell
  /-- The tokens so far, the last one first. -/
  tokens : List Token := []
  count : Nat := 0
  /-- The columns of the open blocks, the innermost first. -/
  blocks : List Nat := []
  /-- Whether a key without a question mark may start next. -/
  keyAllowed : Bool := true
  /-- Where the latest such key may have started. -/
  keyPlace : Option KeyPlace := none
  /-- The same for each surrounding level of brackets and braces, the innermost first. -/
  outerKeys : List (Option KeyPlace) := []

namespace Scan

def flow (s : Scan) : Bool :=
  !s.outerKeys.isEmpty

def column (s : Scan) : Nat :=
  (s.cells.head?.map (·.column)).getD 0

def innerIndent (s : Scan) : Nat :=
  (s.blocks.head?.map (· + 1)).getD 0

def emit (s : Scan) (token : Token) : Scan :=
  { s with tokens := token :: s.tokens, count := s.count + 1 }

/-- Emits a token that takes up the next `n` cells. -/
def take (s : Scan) (n : Nat) (token : Token) : Scan :=
  { s.emit token with cells := s.cells.drop n }

def endBlocks (s : Scan) (column : Nat) : Scan :=
  if s.flow then s
  else
    let ended := s.blocks.takeWhile (column < ·)
    { s with
      blocks := s.blocks.dropWhile (column < ·)
      tokens := ended.map (fun _ => Token.blockEnd) ++ s.tokens
      count := s.count + ended.length }

def endAllBlocks (s : Scan) : Scan :=
  if s.flow then s
  else
    { s with
      blocks := []
      tokens := s.blocks.map (fun _ => Token.blockEnd) ++ s.tokens
      count := s.count + s.blocks.length }

def opensBlock (s : Scan) (column : Nat) : Bool :=
  !s.flow && s.blocks.head?.all (· < column)

/-- Starts a block at the next cell, unless the innermost block starts in that column. -/
def startBlock (s : Scan) (start : Token) : Scan :=
  if s.opensBlock s.column then { s.emit start with blocks := s.column :: s.blocks } else s

def dropKey? (s : Scan) : Option Scan :=
  if s.keyPlace.any (·.required) then none else some { s with keyPlace := none }

def markKey? (s : Scan) : Option Scan :=
  match s.cells with
  | [] => some s
  | c :: _ =>
    if s.keyAllowed then do
      let s ← s.dropKey?
      let required := !s.flow && s.blocks.head? == some c.column
      return { s with keyPlace := some ⟨s.count, c.line, c.column, c.offset, required⟩ }
    else some s

/-- Whether a place is too far behind a cell: a key stands on one line, and its colon follows within
1024 bytes. -/
def isStale (next : Cell) (place : KeyPlace) : Bool :=
  place.line < next.line || place.offset + 1024 < next.offset

def dropStaleKeys? (s : Scan) : Option Scan :=
  match s.cells with
  | [] => some s
  | next :: _ =>
    if (s.keyPlace :: s.outerKeys).any (·.any fun place => isStale next place && place.required)
    then none
    else
      some { s with
        keyPlace := s.keyPlace.filter (!isStale next ·)
        outerKeys := s.outerKeys.map (·.filter (!isStale next ·)) }

/-- Puts the tokens of a key in front of the words that started at a place. -/
def insertKey (s : Scan) (place : KeyPlace) : Scan :=
  let later := s.tokens.take (s.count - place.position)
  let earlier := s.tokens.drop (s.count - place.position)
  if s.opensBlock place.column then
    { s with
      tokens := later ++ .key :: .tableStart :: earlier
      count := s.count + 2
      blocks := place.column :: s.blocks }
  else { s with tokens := later ++ .key :: earlier, count := s.count + 1 }

/-- Goes to the next token. Tabs are no gap where a key may start in a block. A line break in a
block allows a key again. A mark of the byte order may start a line, in which it takes up a
column. -/
def skipGap (flow : Bool) : (keyAllowed comment : Bool) → List Cell → Bool × List Cell
  | keyAllowed, _, [] => (keyAllowed, [])
  | keyAllowed, comment, c :: rest =>
    if isBreak c.char then skipGap flow (keyAllowed || !flow) false rest
    else if comment || c.char == '#' then skipGap flow keyAllowed true rest
    else if c.char == ' ' || (c.char == '\t' && (flow || !keyAllowed)) ||
        (c.char == '\ufeff' && c.column == 0) then
      skipGap flow keyAllowed false rest
    else (keyAllowed, c :: rest)

def endText? (s : Scan) : Option Scan := do
  let s ← s.endAllBlocks.dropKey?
  return { s.emit .textEnd with keyAllowed := false }

def readDirective? (s : Scan) : Option Scan := do
  let s ← s.endAllBlocks.dropKey?
  let (directive, cells) ← directive? (s.cells.drop 1)
  return { s.emit (.directive directive) with keyAllowed := false, cells }

def readMarker? (s : Scan) (token : Token) : Option Scan := do
  let s ← s.endAllBlocks.dropKey?
  return { s.take 3 token with keyAllowed := false }

def readOpening? (s : Scan) (token : Token) : Option Scan := do
  let s ← s.markKey?
  return { s.take 1 token with
    keyAllowed := true, keyPlace := none, outerKeys := s.keyPlace :: s.outerKeys }

def readClosing? (s : Scan) (token : Token) : Option Scan := do
  let s ← s.dropKey?
  let s := { s.take 1 token with keyAllowed := false }
  match s.outerKeys with
  | [] => return s
  | keyPlace :: outerKeys => return { s with keyPlace, outerKeys }

def readComma? (s : Scan) : Option Scan := do
  let s ← s.dropKey?
  return { s.take 1 .comma with keyAllowed := true }

def readDash? (s : Scan) : Option Scan := do
  guard (s.flow ∨ s.keyAllowed)
  let s ← (s.startBlock .listStart).dropKey?
  return { s.take 1 .dash with keyAllowed := true }

def readKeyMark? (s : Scan) : Option Scan := do
  guard (s.flow ∨ s.keyAllowed)
  let s ← (s.startBlock .tableStart).dropKey?
  return { s.take 1 .key with keyAllowed := !s.flow }

def readColon? (s : Scan) : Option Scan :=
  match s.keyPlace with
  | some place =>
    some { (s.insertKey place).take 1 .value with keyAllowed := false, keyPlace := none }
  | none => do
    guard (s.flow ∨ s.keyAllowed)
    return { (s.startBlock .tableStart).take 1 .value with keyAllowed := !s.flow }

def readWord? (s : Scan) (read : List Cell → Option (Token × List Cell)) : Option Scan := do
  let s ← s.markKey?
  let (token, cells) ← read s.cells
  return { s.emit token with keyAllowed := false, cells }

def readName? (s : Scan) (token : String → Token) : Option Scan :=
  s.readWord? fun cells => do
    let (name, cells) ← anchorName? (cells.drop 1)
    return (token name, cells)

def readQuoted? (s : Scan) (read : List Cell → Option (List Char × List Cell)) : Option Scan :=
  s.readWord? fun cells => do
    let (text, cells) ← read (cells.drop 1)
    return (.scalar .quoted (String.ofList text), cells)

def readBlock? (s : Scan) (folded : Bool) : Option Scan := do
  let s ← s.dropKey?
  let (text, cells) ← block? folded s.innerIndent (s.cells.drop 1)
  let form := if folded then .folded else .literal
  return { s.emit (.scalar form (String.ofList text)) with keyAllowed := true, cells }

/-- A plain scalar. A line break behind it allows a key again. -/
def readPlain? (s : Scan) : Option Scan := do
  let s ← s.markKey?
  let (text, broken, cells) ← plain? s.flow s.innerIndent [] s.cells
  return { s.emit (.scalar .plain (String.ofList text)) with keyAllowed := broken, cells }

def indicators : List Char :=
  ['-', '?', ':', ',', '[', ']', '{', '}', '#', '&', '*', '!', '|', '>', '\'', '"', '%', '@',
    '\x60']

def startsPlain (flow : Bool) (c : Char) (rest : List Cell) : Bool :=
  (!isBlank c && !isBreak c && !indicators.contains c) ||
    (c == '-' && !(head? rest).any isBlank) || (!flow && (c == '?' || c == ':') && !atGap rest)

def readToken? (s : Scan) : Option Scan :=
  match s.cells with
  | [] => s.endText?
  | c :: rest =>
    if c.column = 0 ∧ c.char = '%' then s.readDirective?
    else if isMarker '-' s.cells then s.readMarker? .documentStart
    else if isMarker '.' s.cells then s.readMarker? .documentEnd
    else
      match c.char with
      | '[' => s.readOpening? .openBracket
      | '{' => s.readOpening? .openBrace
      | ']' => s.readClosing? .closeBracket
      | '}' => s.readClosing? .closeBrace
      | ',' => s.readComma?
      | '*' => s.readName? .alias
      | '&' => s.readName? .anchor
      | '!' => s.readWord? fun cells => (tag? s.flow cells).map fun (t, after) => (.tag t, after)
      | '\'' => s.readQuoted? (single? [])
      | '"' => s.readQuoted? (double? false [])
      | char =>
        if char = '-' ∧ atGap rest then s.readDash?
        else if char = '?' ∧ (s.flow ∨ atGap rest) then s.readKeyMark?
        else if char = ':' ∧ (s.flow ∨ atGap rest) then s.readColon?
        else if char = '|' ∧ !s.flow then s.readBlock? false
        else if char = '>' ∧ !s.flow then s.readBlock? true
        else if startsPlain s.flow char rest then s.readPlain?
        else none

def next? (s : Scan) : Option Scan := do
  let (keyAllowed, cells) := skipGap s.flow s.keyAllowed false s.cells
  let s ← { s with keyAllowed, cells }.dropStaleKeys?
  (if s.cells.isEmpty then s else s.endBlocks s.column).readToken?

/-- Reads up to `n` tokens. The end of the text is a token, and nothing comes after it. -/
def run? : Nat → Scan → Option (List Token)
  | 0, _ => none
  | n + 1, s => do
    let s ← s.next?
    if s.tokens.head? = some .textEnd then return s.tokens.reverse else run? n s

end Scan

/-- The tokens of a text. Each but the end takes up a cell. -/
def tokens? (cells : List Cell) : Option (List Token) :=
  Scan.run? (cells.length + 1) { cells }

end UmlDiagrams.Yaml
