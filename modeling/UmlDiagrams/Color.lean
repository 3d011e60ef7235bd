import UmlDiagrams.Rejection
import UmlDiagrams.Text.Blank
/-!
# Colors

A color is `#` with three or six hexadecimal digits, or a name of ASCII letters. Written that way
it is a single word of the diagram source.
-/

namespace UmlDiagrams.Color

def isHexDigit (c : Char) : Bool :=
  c.isDigit || ('a' ≤ c && c ≤ 'f') || ('A' ≤ c && c ≤ 'F')

/-- The length of the digits is counted in bytes. -/
def isHex : List Char → Bool
  | '#' :: digits =>
    let bytes := (String.ofList digits).utf8ByteSize
    (bytes == 3 || bytes == 6) && digits.all isHexDigit
  | _ => false

def isName (cs : List Char) : Bool :=
  !cs.isEmpty && cs.all Char.isAlpha

def isColor (s : String) : Bool :=
  isHex s.toList || isName s.toList

/-- Reads a color, which may stand between blanks. -/
def parse (s : String) : Except Rejection String :=
  let value := Text.trim s
  if isColor value then .ok value else .error (.invalidColor value)

end UmlDiagrams.Color
