import UmlDiagrams.Tree.Reader
import UmlDiagrams.Yaml.Node
/-!
# Reading of YAML

Scalars of any kind are text. A plain scalar without characters also counts as a list or table
without content. Choices may be written as tags. Aliases are followed as they are met, and only so
often that a short document cannot stand for a huge one.
-/

namespace UmlDiagrams.Yaml

structure Value where
  node : Yaml
  anchored : List (Nat × Yaml)

/-- A reading counts down the aliases that may still be followed. -/
abbrev Reading := StateT Nat Option

namespace Value

def follow (value : Value) : Reading Yaml := do
  match value.node with
  | .alias number =>
    match ← get with
    | 0 => none
    | left + 1 =>
      set left
      value.anchored.lookup number
  | node => return node

def withNode (value : Value) (node : Yaml) : Value :=
  { value with node }

/-- Whether a scalar has no characters and no quotes either. -/
def isBare (form : Form) (text : String) : Bool :=
  form == .plain && text.isEmpty

def isNullWord (text : String) : Bool :=
  text == "null" || text == "Null" || text == "NULL" || text == "~"

def nullTag : TagText := TagText.ofString "tag:yaml.org,2002:null"

def boolTag : TagText := TagText.ofString "tag:yaml.org,2002:bool"

def textOf? : Yaml → Option String
  | .scalar _ _ text => some text
  | _ => none

def text (value : Value) : Reading String := do
  textOf? (← value.follow)

def items (value : Value) : Reading (List Value) := do
  match ← value.follow with
  | .list items => return items.map value.withNode
  | .scalar _ form text => if isBare form text then return [] else none
  | _ => none

def entry (value : Value) : Yaml × Yaml → Reading (String × Value)
  | (key, node) => return (← (value.withNode key).text, value.withNode node)

def table (value : Value) : Reading (Fields Value) := do
  match ← value.follow with
  | .table entries => return .named (← entries.mapM value.entry)
  | .scalar _ form text => if isBare form text then return .named [] else none
  | _ => none

def flagWords : List (String × Bool) :=
  [("true", true), ("True", true), ("TRUE", true), ("false", false), ("False", false),
    ("FALSE", false)]

/-- A plain scalar, or an indented block with the tag of such values. -/
def flagOf? : Yaml → Option Bool
  | .scalar tag form text =>
    if form = .plain ∨ (form = .literal ∧ tag = some boolTag) then flagWords.lookup text else none
  | _ => none

def flag (value : Value) : Reading Bool := do
  flagOf? (← value.follow)

def ownTag? : Option TagText → Option String
  | some (first :: word) =>
    if [first] = TagText.ofString "!" then String.fromUTF8? ⟨word.toArray⟩ else none
  | _ => none

def choiceOf? : Yaml → Option String
  | .scalar tag form text =>
    match ownTag? tag with
    | none => some text
    | some word =>
      if form = .plain ∧ (text.isEmpty ∨ isNullWord text) then some word else none
  | _ => none

def choice (value : Value) : Reading String := do
  choiceOf? (← value.follow)

/-- Whether a node leaves its place empty: it is nothing or a word for it. With the tag of such
values no other word is accepted. -/
def isAbsent? : Yaml → Option Bool
  | .scalar tag .plain text =>
    if tag = some nullTag then if isNullWord text then some true else none
    else some (tag.isNone && (text.isEmpty || isNullWord text))
  | _ => some false

def present (value : Value) : Reading (Option Value) := do
  let node ← value.follow
  return if ← isAbsent? node then none else some (value.withNode node)

end Value

def reader : Reader Reading Value where
  table := Value.table
  longRows := false
  items := Value.items
  text := Value.text
  flag := Value.flag
  choice := Value.choice
  present := Value.present

namespace Tree

def value (tree : Tree) : Value :=
  ⟨tree.root, tree.anchored⟩

/-- The aliases that may be followed in a document: a hundred for each of its marks. -/
def aliasLimit (tree : Tree) : Nat :=
  100 * markCount tree.root

def read? {α : Type} (tree : Tree) (read : Value → Reading α) : Option α :=
  (read tree.value).run' tree.aliasLimit

end Tree

end UmlDiagrams.Yaml
