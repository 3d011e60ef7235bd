import UmlDiagrams.Kind
/-!
# Record identifiers

Each diagram numbers the records it makes, and never uses a number twice.
-/

namespace UmlDiagrams

/-- The diagram kind whose record this is, and the record's number there. -/
structure Id where
  kind : Kind
  serial : Nat
deriving DecidableEq, Repr

/-- What an edit named: a node by its name, or a record by its identifier. -/
inductive Reference where
  | name (text : String)
  | id (id : Id)
deriving DecidableEq, Repr

end UmlDiagrams
