import UmlDiagrams.Document.Basic
import UmlDiagrams.Tree.Reader
/-!
# Decoding of documents

How a tree spells a document. A document and its style table name nothing but their fields; tables
further inside may have other keys, which are ignored.
-/

namespace UmlDiagrams

variable {m : Type → Type} [Monad m] [MonadLiftT Option m] {τ : Type}

/-- A field of text, empty if not named. -/
def readText (r : Reader m τ) (fields : List (String × τ)) (name : String) : m String :=
  readField fields name "" r.text

def readOptional {α : Type} (r : Reader m τ) (fields : List (String × τ)) (name : String)
    (read : τ → m α) : m (Option α) :=
  readField fields name none (r.optional read)

def readFlag (r : Reader m τ) (fields : List (String × τ)) (name : String) : m Bool :=
  readField fields name false r.flag

def readList {α : Type} (r : Reader m τ) (fields : List (String × τ)) (name : String)
    (read : τ → m α) : m (List α) :=
  readField fields name [] (r.listOf read)

namespace StyleOverrides

def shape : Shape :=
  { fields := ["background_color", "text_color", "primary_color", "use_case_direction"]
    strict := true }

def decode (r : Reader m τ) (value : τ) : m StyleOverrides := do
  let fields ← r.fields shape value
  return {
    background := ← readOptional r fields "background_color" r.text
    text := ← readOptional r fields "text_color" r.text
    primary := ← readOptional r fields "primary_color" r.text
    direction := ← readOptional r fields "use_case_direction" (r.spelled Direction.spellings) }

end StyleOverrides

namespace Style

/-- Unlike in a document, the style of a whole program may have keys of any kind. -/
def shape : Shape :=
  { fields := StyleOverrides.shape.fields }

def decode (r : Reader m τ) (value : τ) : m Style := do
  let fields ← r.fields shape value
  let usual : Style := {}
  return {
    background := ← readField fields "background_color" usual.background r.text
    text := ← readField fields "text_color" usual.text r.text
    primary := ← readField fields "primary_color" usual.primary r.text
    direction := ←
      readField fields "use_case_direction" usual.direction (r.spelled Direction.spellings) }

end Style

namespace MessageSpec

def shape : Shape := { fields := ["from", "to", "arrow", "text"] }

def decode (r : Reader m τ) (value : τ) : m MessageSpec := do
  let fields ← r.fields shape value
  return {
    source := ← readOptional r fields "from" r.text
    target := ← readOptional r fields "to" r.text
    arrow := ← readField fields "arrow" default (r.spelled Arrow.spellings)
    text := ← readText r fields "text" }

end MessageSpec

namespace SequenceSection

def shape : Shape := { fields := ["actors", "messages"] }

def decode (r : Reader m τ) (value : τ) : m SequenceSection := do
  let fields ← r.fields shape value
  return {
    actors := ← readList r fields "actors" r.text
    messages := ← readList r fields "messages" (MessageSpec.decode r) }

end SequenceSection

namespace ClassAttribute

def shape : Shape := { fields := ["name", "visibility", "type", "static"] }

def decode (r : Reader m τ) (value : τ) : m ClassAttribute := do
  let fields ← r.fields shape value
  return {
    name := ← readText r fields "name"
    visibility := ← readField fields "visibility" default (r.spelled Visibility.spellings)
    type := ← readText r fields "type"
    isStatic := ← readFlag r fields "static" }

end ClassAttribute

namespace ClassMethod

def shape : Shape :=
  { fields := ["name", "visibility", "return_type", "parameters", "static", "abstract"] }

def decode (r : Reader m τ) (value : τ) : m ClassMethod := do
  let fields ← r.fields shape value
  return {
    name := ← readText r fields "name"
    visibility := ← readField fields "visibility" default (r.spelled Visibility.spellings)
    returnType := ← readText r fields "return_type"
    parameters := ← readText r fields "parameters"
    isStatic := ← readFlag r fields "static"
    isAbstract := ← readFlag r fields "abstract" }

end ClassMethod

namespace ClassSpec

def shape : Shape := { fields := ["name", "abstract", "attributes", "methods"] }

def decode (r : Reader m τ) (value : τ) : m ClassSpec := do
  let fields ← r.fields shape value
  return {
    name := ← readText r fields "name"
    isAbstract := ← readFlag r fields "abstract"
    attributes := ← readList r fields "attributes" (ClassAttribute.decode r)
    methods := ← readList r fields "methods" (ClassMethod.decode r) }

end ClassSpec

namespace RelationSpec

def shape : Shape := { fields := ["from", "to", "kind", "label"] }

def decode {α : Type} [Inhabited α] (spellings : List (String × α)) (r : Reader m τ) (value : τ) :
    m (RelationSpec α) := do
  let fields ← r.fields shape value
  return {
    source := ← readOptional r fields "from" r.text
    target := ← readOptional r fields "to" r.text
    kind := ← readField fields "kind" default (r.spelled spellings)
    label := ← readText r fields "label" }

end RelationSpec

namespace ClassSection

def shape : Shape := { fields := ["classes", "relationships"] }

def decode (r : Reader m τ) (value : τ) : m ClassSection := do
  let fields ← r.fields shape value
  return {
    classes := ← readList r fields "classes" (ClassSpec.decode r)
    relationships := ←
      readList r fields "relationships" (RelationSpec.decode ClassRelation.spellings r) }

end ClassSection

namespace LinkSpec

def shape : Shape := { fields := ["actor", "use_case"] }

def decode (r : Reader m τ) (value : τ) : m LinkSpec := do
  let fields ← r.fields shape value
  return {
    actor := ← readOptional r fields "actor" r.text
    useCase := ← readOptional r fields "use_case" r.text }

end LinkSpec

namespace UseCaseSection

def shape : Shape := { fields := ["actors", "use_cases", "links"] }

def decode (r : Reader m τ) (value : τ) : m UseCaseSection := do
  let fields ← r.fields shape value
  return {
    actors := ← readList r fields "actors" r.text
    useCases := ← readList r fields "use_cases" r.text
    links := ← readList r fields "links" (LinkSpec.decode r) }

end UseCaseSection

namespace EntityAttribute

def shape : Shape := { fields := ["name", "type", "pk", "fk", "not_null"] }

def decode (r : Reader m τ) (value : τ) : m EntityAttribute := do
  let fields ← r.fields shape value
  return {
    name := ← readText r fields "name"
    type := ← readText r fields "type"
    isPrimaryKey := ← readFlag r fields "pk"
    isForeignKey := ← readFlag r fields "fk"
    isNotNull := ← readFlag r fields "not_null" }

end EntityAttribute

namespace EntitySpec

def shape : Shape := { fields := ["name", "attributes"] }

def decode (r : Reader m τ) (value : τ) : m EntitySpec := do
  let fields ← r.fields shape value
  return {
    name := ← readText r fields "name"
    attributes := ← readList r fields "attributes" (EntityAttribute.decode r) }

end EntitySpec

namespace EntitySection

def shape : Shape := { fields := ["entities", "relationships"] }

def decode (r : Reader m τ) (value : τ) : m EntitySection := do
  let fields ← r.fields shape value
  return {
    entities := ← readList r fields "entities" (EntitySpec.decode r)
    relationships := ←
      readList r fields "relationships" (RelationSpec.decode ErRelation.spellings r) }

end EntitySection

namespace FlowSpec

def shape : Shape := { fields := ["from", "to"] }

def decode (r : Reader m τ) (value : τ) : m FlowSpec := do
  let fields ← r.fields shape value
  return {
    source := ← readOptional r fields "from" r.text
    target := ← readOptional r fields "to" r.text }

end FlowSpec

namespace FlowSection

def shape (nodes edges : String) : Shape := { fields := [nodes, edges] }

def decode (nodes edges : String) (r : Reader m τ) (value : τ) : m FlowSection := do
  let fields ← r.fields (shape nodes edges) value
  return {
    nodes := ← readList r fields nodes r.text
    edges := ← readList r fields edges (FlowSpec.decode r) }

end FlowSection

namespace TransitionSpec

def shape : Shape := { fields := ["from", "to", "event"] }

def decode (r : Reader m τ) (value : τ) : m TransitionSpec := do
  let fields ← r.fields shape value
  return {
    source := ← readOptional r fields "from" r.text
    target := ← readOptional r fields "to" r.text
    event := ← readText r fields "event" }

end TransitionSpec

namespace StateSection

def shape : Shape := { fields := ["states", "transitions"] }

def decode (r : Reader m τ) (value : τ) : m StateSection := do
  let fields ← r.fields shape value
  return {
    states := ← readList r fields "states" r.text
    transitions := ← readList r fields "transitions" (TransitionSpec.decode r) }

end StateSection

namespace Document

def shape : Shape :=
  { fields := ["kind", "style", "sequence", "class", "usecase", "erd", "activity", "component",
      "state"]
    aliases := [("use_case", "usecase"), ("er", "erd")]
    strict := true }

def decode (r : Reader m τ) (value : τ) : m Document := do
  let fields ← r.fields shape value
  return {
    kind := ← readField fields "kind" .sequence (r.spelled Kind.spellings)
    style := ← readField fields "style" {} (StyleOverrides.decode r)
    sequence := ← readField fields "sequence" {} (SequenceSection.decode r)
    classes := ← readField fields "class" {} (ClassSection.decode r)
    useCase := ← readField fields "usecase" {} (UseCaseSection.decode r)
    entity := ← readField fields "erd" {} (EntitySection.decode r)
    activity := ← readField fields "activity" {} (FlowSection.decode "activities" "flows" r)
    component := ←
      readField fields "component" {} (FlowSection.decode "components" "dependencies" r)
    state := ← readField fields "state" {} (StateSection.decode r) }

end Document

end UmlDiagrams
