import UmlDiagrams.Document.Basic
import UmlDiagrams.Proofs.Graph.Listing

namespace UmlDiagrams

def SequenceDiagram.listed (d : SequenceDiagram) : SequenceSection where
  actors := d.nodes
  messages := d.edges.map fun e => ⟨some e.source, some e.target, e.data.arrow, e.data.text⟩

def ClassRecord.listed (c : ClassRecord) : ClassSpec :=
  ⟨c.name, c.isAbstract, c.attributes, c.methods⟩

def ClassDiagram.listed (d : ClassDiagram) : ClassSection where
  classes := d.nodes.map ClassRecord.listed
  relationships := d.edges.map fun e =>
    ⟨Graph.endName rules d e.source, Graph.endName rules d e.target, e.data.kind, e.data.label⟩

def UseCaseDiagram.listed (d : UseCaseDiagram) : UseCaseSection where
  actors := d.actors
  useCases := d.useCases
  links := d.links.map fun l => ⟨some l.actor, some l.useCase⟩

def EntityRecord.listed (e : EntityRecord) : EntitySpec :=
  ⟨e.name, e.attributes⟩

def EntityDiagram.listed (d : EntityDiagram) : EntitySection where
  entities := d.nodes.map EntityRecord.listed
  relationships := d.edges.map fun e =>
    ⟨Graph.endName rules d e.source, Graph.endName rules d e.target, e.data.kind, e.data.label⟩

def FlowDiagram.listed (d : FlowDiagram) : FlowSection where
  nodes := d.nodes
  edges := d.edges.map fun e => ⟨some e.source, some e.target⟩

def StateDiagram.listed (d : StateDiagram) : StateSection where
  states := d.nodes
  transitions := d.edges.map fun e => ⟨some e.source, some e.target, e.data⟩

def Style.listed (s : Style) : StyleOverrides :=
  ⟨some s.background, some s.text, some s.primary, some s.direction⟩

/-- The document that lists the contents of a store: every style field, every node with its members,
and every edge with both its ends by name, all in stored order. -/
def Store.document (s : Store) : Document where
  kind := s.kind
  style := s.style.listed
  sequence := s.sequence.listed
  classes := s.classes.listed
  useCase := s.useCase.listed
  entity := s.entity.listed
  activity := s.activity.listed
  component := s.component.listed
  state := s.state.listed

def MessageSpec.edge (m : MessageSpec) : EdgeSpec Message :=
  ⟨m.source, m.target, ⟨m.arrow, m.text⟩⟩

def RelationSpec.edge {α : Type} (r : RelationSpec α) : EdgeSpec (Relation α) :=
  ⟨r.source, r.target, ⟨r.kind, r.label⟩⟩

def FlowSpec.edge (f : FlowSpec) : EdgeSpec Unit :=
  ⟨f.source, f.target, ()⟩

def TransitionSpec.edge (t : TransitionSpec) : EdgeSpec String :=
  ⟨t.source, t.target, t.event⟩

def LinkSpec.completed (actors useCases : List String) (l : LinkSpec) : LinkSpec where
  actor := l.actor.or actors[0]?
  useCase := l.useCase.or useCases[0]?

structure LinkSpec.Known (actors useCases : List String) (l : LinkSpec) : Prop where
  actor : ∀ n, l.actor = some n → n ∈ actors
  useCase : ∀ n, l.useCase = some n → n ∈ useCases

def ClassAttribute.trimmed (a : ClassAttribute) : ClassAttribute :=
  { a with name := Text.trim a.name }

def ClassMethod.trimmed (m : ClassMethod) : ClassMethod :=
  { m with name := Text.trim m.name }

def EntityAttribute.trimmed (a : EntityAttribute) : EntityAttribute :=
  { a with name := Text.trim a.name }

def ClassSpec.trimmed (c : ClassSpec) : ClassSpec where
  name := Text.trim c.name
  isAbstract := c.isAbstract
  attributes := c.attributes.map ClassAttribute.trimmed
  methods := c.methods.map ClassMethod.trimmed

def EntitySpec.trimmed (e : EntitySpec) : EntitySpec where
  name := Text.trim e.name
  attributes := e.attributes.map EntityAttribute.trimmed

def SequenceSection.names (c : SequenceSection) : List String :=
  c.actors.map Text.trim

def ClassSection.names (c : ClassSection) : List String :=
  c.classes.map fun spec => Text.trim spec.name

def UseCaseSection.actorNames (c : UseCaseSection) : List String :=
  c.actors.map Text.trim

def UseCaseSection.useCaseNames (c : UseCaseSection) : List String :=
  c.useCases.map Text.trim

def EntitySection.names (c : EntitySection) : List String :=
  c.entities.map fun spec => Text.trim spec.name

def FlowSection.names (c : FlowSection) : List String :=
  c.nodes.map Text.trim

def StateSection.names (c : StateSection) : List String :=
  c.states.map Text.trim

def SequenceSection.completed (c : SequenceSection) : SequenceSection where
  actors := c.names
  messages := c.messages.map fun m =>
    { m with source := m.source.or c.names[0]?, target := m.target.or c.names[1]? }

def ClassSection.completed (c : ClassSection) : ClassSection where
  classes := c.classes.map ClassSpec.trimmed
  relationships := c.relationships.map fun r =>
    { r with source := r.source.or c.names[0]?, target := r.target.or c.names[1]? }

def UseCaseSection.completed (c : UseCaseSection) : UseCaseSection where
  actors := c.actorNames
  useCases := c.useCaseNames
  links := c.links.map (·.completed c.actorNames c.useCaseNames)

def EntitySection.completed (c : EntitySection) : EntitySection where
  entities := c.entities.map EntitySpec.trimmed
  relationships := c.relationships.map fun r =>
    { r with source := r.source.or c.names[0]?, target := r.target.or c.names[1]? }

def FlowSection.completed (c : FlowSection) : FlowSection where
  nodes := c.names
  edges := c.edges.map fun f => ⟨f.source.or c.names[0]?, f.target.or c.names[1]?⟩

def StateSection.completed (c : StateSection) : StateSection where
  states := c.names
  transitions := c.transitions.map fun t =>
    { t with source := t.source.or c.names[0]?, target := t.target.or c.names[1]? }

def StyleOverrides.completed (o : StyleOverrides) (style : Style) : Style where
  background := (o.background.map Text.trim).getD style.background
  text := (o.text.map Text.trim).getD style.text
  primary := (o.primary.map Text.trim).getD style.primary
  direction := o.direction.getD style.direction

/-- The document with everything in it that a replay on a new store fills in: names are trimmed, open
ends are closed by the first or second node, and style fields that are not named are those of
`style`. -/
def Document.completed (style : Style) (d : Document) : Document where
  kind := d.kind
  style := (d.style.completed style).listed
  sequence := d.sequence.completed
  classes := d.classes.completed
  useCase := d.useCase.completed
  entity := d.entity.completed
  activity := d.activity.completed
  component := d.component.completed
  state := d.state.completed

structure ClassSpec.MembersNamed (c : ClassSpec) : Prop where
  attributes : ∀ a ∈ c.attributes, Text.trim a.name ≠ ""
  methods : ∀ m ∈ c.methods, Text.trim m.name ≠ ""

def EntitySpec.MembersNamed (e : EntitySpec) : Prop :=
  ∀ a ∈ e.attributes, Text.trim a.name ≠ ""

structure StyleOverrides.Fits (o : StyleOverrides) : Prop where
  background : ∀ c, o.background = some c → Color.isColor (Text.trim c)
  text : ∀ c, o.text = some c → Color.isColor (Text.trim c)
  primary : ∀ c, o.primary = some c → Color.isColor (Text.trim c)

/-- Actors and use cases have one space of names, links name an actor and a use case. -/
structure UseCaseSection.Fits (c : UseCaseSection) : Prop where
  nonblank : ∀ n ∈ c.actorNames ++ c.useCaseNames, n ≠ ""
  distinct : ((c.actorNames ++ c.useCaseNames).map (printKey .useCases)).Nodup
  known : ∀ l ∈ c.links, l.Known c.actorNames c.useCaseNames

structure UseCaseSection.EnoughNodes (c : UseCaseSection) : Prop where
  actor : c.links ≠ [] → c.actorNames ≠ []
  useCase : c.links ≠ [] → c.useCaseNames ≠ []

namespace Document

/-- All that can be wrong with a document apart from sections with too few nodes for their edges:
colors have to be colors; in each section names must not be blank or print alike, an end that is
given has to be the trimmed name of a node, and no relationship may agree with another in its ends
and its kind. -/
structure Fits (d : Document) : Prop where
  style : d.style.Fits
  sequence : SequenceDiagram.rules.Fits d.sequence.names (d.sequence.messages.map (·.edge))
  classes : ClassDiagram.rules.Fits d.classes.names (d.classes.relationships.map (·.edge))
  classMembers : ∀ c ∈ d.classes.classes, c.MembersNamed
  useCase : d.useCase.Fits
  entity : EntityDiagram.rules.Fits d.entity.names (d.entity.relationships.map (·.edge))
  entityMembers : ∀ e ∈ d.entity.entities, e.MembersNamed
  activity : FlowDiagram.activityRules.Fits d.activity.names (d.activity.edges.map (·.edge))
  component : FlowDiagram.componentRules.Fits d.component.names (d.component.edges.map (·.edge))
  state : StateDiagram.rules.Fits d.state.names (d.state.transitions.map (·.edge))

/-- Sections with edges have nodes to join: an actor and a use case for links, two nodes for all
other edges. -/
structure EnoughNodes (d : Document) : Prop where
  sequence : UmlDiagrams.EnoughNodes d.sequence.names d.sequence.messages
  classes : UmlDiagrams.EnoughNodes d.classes.names d.classes.relationships
  useCase : d.useCase.EnoughNodes
  entity : UmlDiagrams.EnoughNodes d.entity.names d.entity.relationships
  activity : UmlDiagrams.EnoughNodes d.activity.names d.activity.edges
  component : UmlDiagrams.EnoughNodes d.component.names d.component.edges
  state : UmlDiagrams.EnoughNodes d.state.names d.state.transitions

end Document

end UmlDiagrams
