/-!
# Printed names

How user text stands in diagram source. Every record is one line there, so a line break, in any of
its three forms, is written as the two characters `\n`.
-/

namespace UmlDiagrams.Text

/-- Writes each CRLF pair, lone CR and lone LF as a backslash and an `n`. -/
def foldChars : List Char → List Char
  | [] => []
  | '\r' :: '\n' :: rest => '\\' :: 'n' :: foldChars rest
  | c :: rest =>
    if c = '\r' ∨ c = '\n' then '\\' :: 'n' :: foldChars rest else c :: foldChars rest

/-- Text on one line. -/
def fold (s : String) : String :=
  String.ofList (foldChars s.toList)

def softenQuote (c : Char) : Char :=
  if c = '"' then '\'' else c

def softenBracket (c : Char) : Char :=
  if c = '[' then '(' else if c = ']' then ')' else c

def quoted (s : String) : String :=
  String.ofList ('"' :: (foldChars s.toList).map softenQuote ++ ['"'])

def bracketed (s : String) : String :=
  String.ofList ('[' :: (foldChars s.toList).map softenBracket ++ [']'])

/-- Letters, digits and underscores of ASCII, at least one. -/
def isPlain (s : String) : Bool :=
  !s.isEmpty && s.toList.all fun c => c.isAlphanum || c == '_'

/-- A participant stands bare when its name is plain, and in quotes otherwise. -/
def participant (s : String) : String :=
  if isPlain s then s else quoted s

end UmlDiagrams.Text
