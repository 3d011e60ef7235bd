import UmlDiagrams.Json.Value
import UmlDiagrams.Tree.Reader
/-!
# Reading of JSON

Tables are objects, or arrays that give the fields in order. A choice is its spelling or an object
with the spelling as its only key.
-/

namespace UmlDiagrams.Json

def table? : Json → Option (Fields Json)
  | table entries => do return .named (← entries.mapM fun (key, value) => key.map (·, value))
  | list items => some (.row items)
  | _ => none

def items? : Json → Option (List Json)
  | list items => some items
  | _ => none

def text? : Json → Option String
  | text value? => value?
  | _ => none

def flag? : Json → Option Bool
  | flag value => some value
  | _ => none

def choice? : Json → Option String
  | text value? => value?
  | table [(key, null)] => key
  | _ => none

def present? : Json → Option (Option Json)
  | null => some none
  | value => some (some value)

def reader : Reader Option Json where
  table := table?
  longRows := false
  items := items?
  text := text?
  flag := flag?
  choice := choice?
  present := present?

end UmlDiagrams.Json
