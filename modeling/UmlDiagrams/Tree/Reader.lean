/-!
# Reading of tables

A document arrives as a tree in one of several data formats. A reader tells what a value of such a
tree stands for. Tables are read by their shape: the fields they may name, in any order or, as a
row, without names in the order of the shape.
-/

namespace UmlDiagrams

/-- How the fields of a table are written: with their names, or as a row in their usual order. -/
inductive Fields (τ : Type) where
  | named (entries : List (String × τ))
  | row (items : List τ)

/-- How values of a data format are read. A reading fails wherever a value cannot be read that way;
`m` is `Option` if nothing but the value decides that. -/
structure Reader (m : Type → Type) (τ : Type) where
  table : τ → m (Fields τ)
  /-- Whether a row may have more items than the table has fields. -/
  longRows : Bool
  items : τ → m (List τ)
  text : τ → m String
  flag : τ → m Bool
  /-- The spelling of one choice out of several. -/
  choice : τ → m String
  /-- What stands in a place that may be left empty; `none` for nothing. -/
  present : τ → m (Option τ)

/-- The fields that a table may name, and other names for them. -/
structure Shape where
  fields : List String
  aliases : List (String × String) := []
  /-- Whether the table is refused if it has any other key. -/
  strict : Bool := false

namespace Shape

def field? (shape : Shape) (key : String) : Option String :=
  if key ∈ shape.fields then some key else shape.aliases.lookup key

/-- The named fields with their values. No field may be named twice. -/
def collect? {τ : Type} (shape : Shape) : List (String × τ) → Option (List (String × τ))
  | [] => some []
  | (key, value) :: entries => do
    let fields ← shape.collect? entries
    match shape.field? key with
    | none => if shape.strict then none else some fields
    | some name => if (fields.lookup name).isSome then none else some ((name, value) :: fields)

/-- The fields that a table names, or those that a row has items for. -/
def select? {τ : Type} (shape : Shape) (longRows : Bool) : Fields τ → Option (List (String × τ))
  | .named entries => shape.collect? entries
  | .row items =>
    if longRows ∨ items.length ≤ shape.fields.length then some (shape.fields.zip items) else none

end Shape

namespace Reader

variable {m : Type → Type} [Monad m] [MonadLiftT Option m] {τ α : Type}

def fields (r : Reader m τ) (shape : Shape) (value : τ) : m (List (String × τ)) := do
  shape.select? r.longRows (← r.table value)

def listOf (r : Reader m τ) (read : τ → m α) (value : τ) : m (List α) := do
  (← r.items value).mapM read

def optional (r : Reader m τ) (read : τ → m α) (value : τ) : m (Option α) := do
  match ← r.present value with
  | none => return none
  | some value => return some (← read value)

/-- Reads one of several spelled choices. -/
def spelled (r : Reader m τ) (spellings : List (String × α)) (value : τ) : m α := do
  spellings.lookup (← r.choice value)

end Reader

def readField {m : Type → Type} [Monad m] {τ α : Type} (fields : List (String × τ)) (name : String)
    (default : α) (read : τ → m α) : m α :=
  match fields.lookup name with
  | none => return default
  | some value => read value

end UmlDiagrams
