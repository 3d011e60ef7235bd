import UmlDiagrams.Toml.Reading
import UmlDiagrams.Tree.Reader
/-!
# Reading of TOML values

Tables may be written as lists that give the fields in order, and further items are ignored. A
choice is its spelling or a table with the spelling as its only key and nothing inside. No place can
be left empty.
-/

namespace UmlDiagrams.Toml

def items? : Toml → Option (List Toml)
  | list items => some items
  | tables items => some items.reverse
  | _ => none

/-- A date or time is read as a table, whose only key is no field of any table. -/
def table? : Toml → Option (Fields Toml)
  | table _ entries => some (.named entries)
  | moment => some (.named [("", moment)])
  | value => (items? value).map .row

def text? : Toml → Option String
  | text value => some value
  | _ => none

def flag? : Toml → Option Bool
  | flag value => some value
  | _ => none

def isHollow : Toml → Bool
  | list items => items.isEmpty
  | table _ entries => entries.isEmpty
  | _ => false

def choice? : Toml → Option String
  | text value => some value
  | table _ [(key, value)] => if isHollow value then some key else none
  | _ => none

def natural? : Toml → Option Nat
  | integer n => if 0 ≤ n ∧ n < Nat.pow 2 64 then some n.toNat else none
  | _ => none

def reader : Reader Option Toml where
  table := table?
  longRows := true
  items := items?
  text := text?
  flag := flag?
  choice := choice?
  present := fun value => some (some value)

end UmlDiagrams.Toml
