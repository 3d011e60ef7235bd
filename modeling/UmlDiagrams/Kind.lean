import UmlDiagrams.Text.Blank
/-!
# Diagram kinds

The seven kinds of diagram. Documents spell a kind exactly; a kind typed by a user is read
leniently.
-/

namespace UmlDiagrams

inductive Kind where
  | sequence | classes | useCase | entity | activity | component | state
deriving DecidableEq, Repr, Inhabited

namespace Kind

def all : List Kind :=
  [sequence, classes, useCase, entity, activity, component, state]

/-- The short name, also the start of generated file names. -/
def slug : Kind → String
  | sequence => "sequence"
  | classes => "class"
  | useCase => "usecase"
  | entity => "erd"
  | activity => "activity"
  | component => "component"
  | state => "state"

/-- The spellings that documents accept. -/
def spellings : List (String × Kind) :=
  [("sequence", sequence), ("class", classes), ("usecase", useCase), ("use-case", useCase),
    ("use_case", useCase), ("erd", entity), ("er", entity), ("entity-relationship", entity),
    ("activity", activity), ("component", component), ("state", state),
    ("state-machine", state), ("statemachine", state)]

/-- The names a user may type, in lower case and without joining characters. -/
def typedNames : List (String × Kind) :=
  [("sequence", sequence), ("class", classes), ("usecase", useCase), ("erd", entity),
    ("er", entity), ("entityrelationship", entity), ("activity", activity),
    ("component", component), ("state", state), ("statemachine", state)]

/-- Blanks around a typed name, the case of its ASCII letters, hyphens and underscores do not
matter. -/
def ofTyped (s : String) : Except String Kind :=
  let letters := ((Text.trim s).toList.map Char.toLower).filter fun c => c != '-' && c != '_'
  match typedNames.lookup (String.ofList letters) with
  | some kind => .ok kind
  | none => .error ("Unknown diagram kind '" ++ s ++ "'")

end Kind

end UmlDiagrams
