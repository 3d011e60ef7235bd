import UmlDiagrams.Yaml.Cell

namespace UmlDiagrams.Yaml

/-- The text of a tag. It consists of bytes, because escapes write bytes of any kind. -/
abbrev TagText := List UInt8

def TagText.ofString (s : String) : TagText :=
  s.toUTF8.data.toList

/-- A tag as written: a handle, which stands for the start of the tag, and the rest. -/
structure TagName where
  handle : String
  suffix : TagText
deriving DecidableEq, Repr

def anchorEnds : List Char :=
  ['?', ':', ',', ']', '}', '%', '@', '\x60']

def anchorName? (cells : List Cell) : Option (String × List Cell) :=
  let (name, after) := spanChars isWordChar cells
  if name ≠ [] ∧ (atGap after ∨ startsWithAny anchorEnds after) then
    some (String.ofList name, after)
  else none

def tagMarks : List Char :=
  [';', '/', '?', ':', '@', '&', '=', '+', '$', '.', '!', '~', '*', '\'', '(', ')']

/-- Characters that also belong to a tag if it has delimiters. -/
def delimitedMarks : List Char :=
  [',', '[', ']']

def bytesAfter? (first : Nat) : Option Nat :=
  if first < 0x80 then some 0
  else if first < 0xC0 then none
  else if first < 0xE0 then some 1
  else if first < 0xF0 then some 2
  else if first < 0xF8 then some 3
  else none

/-- The bytes of tag characters, among which bytes may be written as a percent sign and two
hexadecimal digits each. Of a character that is written so, `due` bytes are still to come. -/
def tagBytes? : (due : Nat) → List Char → Option TagText
  | due, [] => if due = 0 then some [] else none
  | due, '%' :: a :: b :: rest => do
    let byte ← Text.hexNumber? [a, b]
    let due ← match due with
      | 0 => bytesAfter? byte
      | due + 1 => if byte / 64 = 2 then some due else none
    return byte.toUInt8 :: (← tagBytes? due rest)
  | due, c :: rest =>
    if due ≠ 0 ∨ c = '%' then none else (tagBytes? 0 rest).map (c.toNat.toUInt8 :: ·)

def tagText? (delimited : Bool) (cells : List Cell) : Option (TagText × List Cell) :=
  let isTagChar (c : Char) : Bool :=
    isWordChar c || tagMarks.contains c || c == '%' || (delimited && delimitedMarks.contains c)
  let (cs, after) := spanChars isTagChar cells
  (tagBytes? 0 cs).map (·, after)

/-- A zero byte ends a tag. -/
def untilZero (bytes : TagText) : TagText :=
  bytes.takeWhile (· ≠ 0)

/-- A handle, which is an exclamation mark or a word between two of them, and what follows it. The
flag tells whether the second mark is there. -/
def handle? : List Cell → Option (String × Bool × List Cell)
  | [] => none
  | c :: rest =>
    if c.char ≠ '!' then none
    else
      let (word, after) := spanChars isWordChar rest
      if startsWithAny ['!'] after then
        some (String.ofList ('!' :: word ++ ['!']), true, after.drop 1)
      else some (String.ofList ('!' :: word), false, after)

def shortTag? (cells : List Cell) : Option (TagName × List Cell) := do
  let (handle, closed, after) ← handle? cells
  let (rest, after) ← tagText? false after
  if closed then
    guard (rest ≠ [])
    return (⟨handle, untilZero rest⟩, after)
  else
    let suffix := untilZero ((TagText.ofString handle).drop 1 ++ rest)
    return (if suffix = [] then ⟨"", TagText.ofString "!"⟩ else ⟨"!", suffix⟩, after)

def delimitedTag? (cells : List Cell) : Option (TagName × List Cell) := do
  let (suffix, after) ← tagText? true cells
  guard (suffix ≠ [] ∧ startsWithAny ['>'] after)
  return (⟨"", untilZero suffix⟩, after.drop 1)

/-- A tag and what follows it: a gap or, in brackets or braces, perhaps a comma. -/
def tag? (flow : Bool) (cells : List Cell) : Option (TagName × List Cell) := do
  let (tag, after) ←
    if startsWithAny ['<'] (cells.drop 1) then delimitedTag? (cells.drop 2) else shortTag? cells
  guard (atGap after ∨ (flow ∧ startsWithAny [','] after))
  return (tag, after)

inductive Directive where
  | version (major minor : Nat)
  /-- Tags with this handle start with this text. -/
  | tags (handle : String) (start : TagText)
deriving DecidableEq, Repr

def versionNumber? (cells : List Cell) : Option (Nat × List Cell) :=
  let (digits, after) := spanChars Char.isDigit cells
  if digits ≠ [] ∧ digits.length ≤ 9 then
    some (digits.foldl (fun n c => 10 * n + (c.toNat - '0'.toNat)) 0, after)
  else none

def versionDirective? (cells : List Cell) : Option (Directive × List Cell) := do
  let (major, cells) ← versionNumber? (skipBlanks cells)
  guard (startsWithAny ['.'] cells)
  let (minor, cells) ← versionNumber? (cells.drop 1)
  return (.version major minor, cells)

def tagDirective? (cells : List Cell) : Option (Directive × List Cell) := do
  let (handle, closed, cells) ← handle? (skipBlanks cells)
  guard (closed ∨ handle = "!")
  guard ((head? cells).any isBlank)
  let (start, cells) ← tagText? true (skipBlanks cells)
  guard (start ≠ [] ∧ atGap cells)
  return (.tags handle (untilZero start), cells)

def directive? (cells : List Cell) : Option (Directive × List Cell) := do
  let (name, cells) := spanChars isWordChar cells
  guard (atGap cells)
  let (directive, cells) ←
    if name = ['Y', 'A', 'M', 'L'] then versionDirective? cells
    else if name = ['T', 'A', 'G'] then tagDirective? cells
    else none
  return (directive, ← skipLineEnd? cells)

end UmlDiagrams.Yaml
