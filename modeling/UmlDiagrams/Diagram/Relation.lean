
namespace UmlDiagrams

/-- What a relationship of a kind in `α` carries besides its ends. -/
structure Relation (α : Type) where
  kind : α
  label : String
deriving DecidableEq, Repr

inductive ClassRelation where
  | inheritance | composition | aggregation | association
deriving DecidableEq, Repr, Inhabited

namespace ClassRelation

def symbol : ClassRelation → String
  | inheritance => "<|--"
  | composition => "*--"
  | aggregation => "o--"
  | association => "--"

def spellings : List (String × ClassRelation) :=
  [("inheritance", inheritance), ("composition", composition), ("aggregation", aggregation),
    ("association", association)]

end ClassRelation

inductive ErRelation where
  | oneToOne | oneToMany | manyToMany
deriving DecidableEq, Repr

namespace ErRelation

instance : Inhabited ErRelation := ⟨oneToMany⟩

def symbol : ErRelation → String
  | oneToOne => "||--||"
  | oneToMany => "||--o\x7b"
  | manyToMany => "\x7do--o\x7b"

def spellings : List (String × ErRelation) :=
  [("one-to-one", oneToOne), ("one-to-many", oneToMany), ("many-to-many", manyToMany)]

end ErRelation

end UmlDiagrams
