import UmlDiagrams.Json.Token
/-!
# JSON values

The value that a JSON text writes. The tokens are read one by one, with the open lists and tables
on a stack, so nesting has no limit. Numbers are checked but their values are not kept.
-/

namespace UmlDiagrams

inductive Json where
  | null
  | flag (value : Bool)
  | number
  /-- A string; `none` if its escapes denote no text. -/
  | text (value? : Option String)
  | list (items : List Json)
  | table (entries : List (Option String × Json))
deriving Repr, Inhabited

namespace Json

/-- An open list or table; what it holds so far is in reverse order. -/
inductive Frame where
  | list (items : List Json)
  | table (entries : List (Option String × Json))
  /-- A table together with the key whose value comes next. -/
  | entry (entries : List (Option String × Json)) (key : Option String)

inductive Await where
  | value
  /-- The first item of a list, or its end. -/
  | firstItem
  /-- The first key of a table, or its end. -/
  | firstKey
  | key
  | colon
  /-- A comma, or the end of the innermost list or table. -/
  | separator
deriving DecidableEq

inductive Progress where
  | reading (frames : List Frame) (await : Await)
  | done (value : Json)

/-- A complete value goes into the innermost open list or table. -/
def deliver (value : Json) : List Frame → Option Progress
  | [] => some (.done value)
  | .list items :: frames => some (.reading (.list (value :: items) :: frames) .separator)
  | .entry entries key :: frames =>
    some (.reading (.table ((key, value) :: entries) :: frames) .separator)
  | .table _ :: _ => none

def start (frames : List Frame) : Token → Option Progress
  | .openBrace => some (.reading (.table [] :: frames) .firstKey)
  | .openBracket => some (.reading (.list [] :: frames) .firstItem)
  | .null => deliver .null frames
  | .flag value => deliver (.flag value) frames
  | .number => deliver .number frames
  | .text value? => deliver (.text value?) frames
  | _ => none

def close : List Frame → Token → Option Progress
  | .list items :: frames, .closeBracket => deliver (.list items.reverse) frames
  | .table entries :: frames, .closeBrace => deliver (.table entries.reverse) frames
  | _, _ => none

/-- A key of the innermost open table. -/
def readKey : List Frame → Token → Option Progress
  | .table entries :: frames, .text key => some (.reading (.entry entries key :: frames) .colon)
  | _, _ => none

/-- A comma goes on with the next item of a list or the next key of a table. -/
def separate : List Frame → Option Progress
  | .list items :: frames => some (.reading (.list items :: frames) .value)
  | .table entries :: frames => some (.reading (.table entries :: frames) .key)
  | _ => none

/-- Reads one token. Nothing may follow a complete value. -/
def advance : Progress → Token → Option Progress
  | .done _, _ => none
  | .reading frames .value, token => start frames token
  | .reading frames .firstItem, token => close frames token <|> start frames token
  | .reading frames .firstKey, token => close frames token <|> readKey frames token
  | .reading frames .key, token => readKey frames token
  | .reading frames .colon, token => if token = .colon then some (.reading frames .value) else none
  | .reading frames .separator, token =>
    if token = .comma then separate frames else close frames token

def ofTokens? (tokens : List Token) : Option Json :=
  match tokens.foldlM advance (.reading [] .value) with
  | some (.done value) => some value
  | _ => none

def parse? (s : String) : Option Json :=
  (tokens? s.toList).bind ofTokens?

end Json

end UmlDiagrams
