/-!
# TOML values

Values of TOML and the rules by which a table grows. A table remembers how it came about, because
that decides which later lines may add to it.
-/

namespace UmlDiagrams

/-- How a table came about. -/
inductive Toml.Origin where
  /-- By a header of its own; the whole document counts as such a table. -/
  | header
  /-- As a step on the way of a header. -/
  | passage
  /-- As a step on the way of a dotted key. -/
  | dotted
  /-- In braces; such a table is complete. -/
  | braces
deriving DecidableEq, Repr

inductive Toml where
  | text (value : String)
  | flag (value : Bool)
  | integer (value : Int)
  | float
  /-- A date, a time, or both. -/
  | moment
  | list (items : List Toml)
  /-- Tables under repeated headers, the last one first. -/
  | tables (items : List Toml)
  | table (origin : Toml.Origin) (entries : List (String × Toml))
deriving Repr

namespace Toml

/-- The path that a header or a dotted key writes: the tables on the way and the last key. -/
structure Path where
  parents : List String
  last : String
deriving DecidableEq, Repr

def extend? (entries : List (String × Toml)) (key : String) (value : Toml) :
    Option (List (String × Toml)) :=
  if (entries.lookup key).isSome then none else some (entries ++ [(key, value)])

def replace (entries : List (String × Toml)) (key : String) (value : Toml) :
    List (String × Toml) :=
  entries.map fun (k, v) => if k = key then (k, value) else (k, v)

/-- Changes the table at the end of a way. Missing tables on the way of a header or, if `dotted`, of
a dotted key are made. Tables under repeated headers are entered at the last one. A dotted key does
not enter a table that has a header of its own, and nothing enters a table in braces. -/
def within? (dotted : Bool)
    (change : Origin → List (String × Toml) → Option (List (String × Toml))) :
    Origin → List String → List (String × Toml) → Option (List (String × Toml))
  | origin, [], entries => change origin entries
  | _, key :: way, entries =>
    match entries.lookup key with
    | none => do
      let origin := if dotted then .dotted else .passage
      let inner ← within? dotted change origin way []
      return entries ++ [(key, .table origin inner)]
    | some (.table origin inner) =>
      if origin = .braces ∨ (dotted ∧ origin = .header) then none
      else do
        let inner ← within? dotted change origin way inner
        return replace entries key (.table origin inner)
    | some (.tables (.table origin inner :: earlier)) => do
      let inner ← within? dotted change origin way inner
      return replace entries key (.tables (.table origin inner :: earlier))
    | some _ => none

/-- Sets the value of a key, which may be dotted. The table at the end of a dotted way has to stem
from dotted keys. -/
def assign? (path : Path) (value : Toml) (origin : Origin) (entries : List (String × Toml)) :
    Option (List (String × Toml)) :=
  within? true
    (fun origin entries =>
      if path.parents ≠ [] ∧ origin ≠ .dotted then none else extend? entries path.last value)
    origin path.parents entries

/-- Opens the table of a header. A table that is only a step on the way of other headers may still
get a header of its own. -/
def openTable? (path : Path) (entries : List (String × Toml)) : Option (List (String × Toml)) :=
  within? false
    (fun _ entries =>
      match entries.lookup path.last with
      | none => some (entries ++ [(path.last, .table .header [])])
      | some (.table .passage inner) => some (replace entries path.last (.table .header inner))
      | some _ => none)
    .header path.parents entries

def openNext? (path : Path) (entries : List (String × Toml)) : Option (List (String × Toml)) :=
  within? false
    (fun _ entries =>
      match entries.lookup path.last with
      | none => some (entries ++ [(path.last, .tables [.table .header []])])
      | some (.tables items) =>
        some (replace entries path.last (.tables (.table .header [] :: items)))
      | some _ => none)
    .header path.parents entries

end Toml

end UmlDiagrams
