import UmlDiagrams.Store
/-!
# Diagram source

The text of the active diagram for the renderer: a frame with the style, the declarations of the
nodes, a blank line, and one line for each edge.
-/

namespace UmlDiagrams

/-- What stands between the frame lines. Each node has a block of lines, each edge one line. -/
structure Body where
  opening : List String := []
  blocks : List (List String)
  edges : List String
deriving DecidableEq, Repr

def Body.lines (b : Body) : List String :=
  b.opening ++ b.blocks.flatten ++ [""] ++ b.edges

/-- A type after a name; nothing for a blank type. -/
def typeSuffix (type : String) : String :=
  let type := Text.trim type
  if type.isEmpty then "" else ": " ++ Text.fold type

def labelSuffix (label : String) : String :=
  if label.isEmpty then "" else " : " ++ Text.fold label

def flagged (flag : Bool) (word : String) : String :=
  if flag then word else ""

def ClassAttribute.line (a : ClassAttribute) : String :=
  "  " ++ a.visibility.symbol ++ " " ++ flagged a.isStatic "\x7bstatic\x7d " ++ Text.fold a.name ++
    typeSuffix a.type

def ClassMethod.line (m : ClassMethod) : String :=
  "  " ++ m.visibility.symbol ++ " " ++ flagged m.isStatic "\x7bstatic\x7d " ++
    flagged m.isAbstract "\x7babstract\x7d " ++ Text.fold m.name ++
    "(" ++ Text.fold (Text.trim m.parameters) ++ ")" ++ typeSuffix m.returnType

def EntityAttribute.line (a : EntityAttribute) : String :=
  "  " ++ Text.fold a.name ++ typeSuffix a.type ++ flagged a.isPrimaryKey " [PK]" ++
    flagged a.isForeignKey " [FK]" ++ flagged a.isNotNull " [NOT NULL]"

def ClassRecord.block (c : ClassRecord) : List String :=
  [flagged c.isAbstract "abstract " ++ "class " ++ Text.quoted c.name ++ " \x7b"] ++
    c.attributes.map ClassAttribute.line ++
    (if c.attributes.isEmpty || c.methods.isEmpty then [] else ["  --"]) ++
    c.methods.map ClassMethod.line ++ ["\x7d"]

def EntityRecord.block (e : EntityRecord) : List String :=
  ["entity " ++ Text.quoted e.name ++ " \x7b"] ++ e.attributes.map EntityAttribute.line ++ ["\x7d"]

def edgeLine (source symbol target suffix : String) : String :=
  source ++ " " ++ symbol ++ " " ++ target ++ suffix

def recordEdgeLine? {ν ε : Type} (R : Rules Id ν ε) (g : Graph Id ν ε) (symbol label : ε → String)
    (e : Edge Id ε) : Option String := do
  let source ← g.findNode? R e.source
  let target ← g.findNode? R e.target
  return edgeLine (Text.quoted (R.name source)) (symbol e.data) (Text.quoted (R.name target))
    (labelSuffix (label e.data))

def SequenceDiagram.body (d : SequenceDiagram) : Body where
  blocks := d.nodes.map fun n => ["actor " ++ Text.participant n]
  edges := d.edges.map fun e =>
    edgeLine (Text.participant e.source) e.data.arrow.symbol (Text.participant e.target)
      (": " ++ Text.fold e.data.text)

def ClassDiagram.body (d : ClassDiagram) : Body where
  blocks := d.nodes.map ClassRecord.block
  edges := d.edges.filterMap (recordEdgeLine? rules d (·.kind.symbol) (·.label))

def Direction.line : Direction → String
  | .vertical => "top to bottom direction"
  | .horizontal => "left to right direction"

def UseCaseDiagram.body (direction : Direction) (d : UseCaseDiagram) : Body where
  opening := [direction.line]
  blocks := (d.actors.map fun n => ["actor " ++ Text.quoted n]) ++
    d.useCases.map fun n => ["usecase " ++ Text.quoted n]
  edges := d.links.map fun l => edgeLine (Text.quoted l.actor) "-->" (Text.quoted l.useCase) ""

def EntityDiagram.body (d : EntityDiagram) : Body where
  blocks := d.nodes.map EntityRecord.block
  edges := d.edges.filterMap (recordEdgeLine? rules d (·.kind.symbol) (·.label))

/-- The body of a diagram of names: `word` declares a node, `print` writes a name. -/
def FlowDiagram.body (word : String) (print : String → String) (d : FlowDiagram) : Body where
  blocks := d.nodes.map fun n => [word ++ print n]
  edges := d.edges.map fun e => edgeLine (print e.source) "-->" (print e.target) ""

def StateDiagram.body (d : StateDiagram) : Body where
  blocks := d.nodes.map fun n => ["state " ++ Text.quoted n]
  edges := d.edges.map fun e =>
    edgeLine (Text.quoted e.source) "-->" (Text.quoted e.target) (labelSuffix e.data)

namespace Store

def body (s : Store) : Kind → Body
  | .sequence => s.sequence.body
  | .classes => s.classes.body
  | .useCase => s.useCase.body s.style.direction
  | .entity => s.entity.body
  | .activity => s.activity.body "action " Text.quoted
  | .component => s.component.body "" Text.bracketed
  | .state => s.state.body

end Store

def Style.header (s : Style) : List String :=
  ["@startuml",
    "skinparam backgroundColor " ++ s.background,
    "skinparam defaultFontColor " ++ s.text,
    "skinparam ArrowColor " ++ s.primary,
    "skinparam BorderColor " ++ s.primary,
    ""]

namespace Store

def sourceLines (s : Store) : List String :=
  s.style.header ++ (s.body s.kind).lines ++ ["@enduml"]

/-- The source of the active diagram; every line ends with a line feed. -/
def source (s : Store) : String :=
  String.join (s.sourceLines.map (· ++ "\n"))

end Store

end UmlDiagrams
