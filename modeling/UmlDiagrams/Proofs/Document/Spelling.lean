import UmlDiagrams.Document.Decode
import UmlDiagrams.Proofs.Tree.Spelling
/-!
# Spelled documents

The fields of each table of a document. Every field may be left out if its value is the usual one.
A document and its style name no other fields; the tables inside may.
-/

namespace UmlDiagrams

variable {τ : Type} (S : Script τ)

namespace StyleOverrides

def layout (style : StyleOverrides) : List (Field τ) :=
  [S.optional "background_color" S.IsText style.background,
    S.optional "text_color" S.IsText style.text,
    S.optional "primary_color" S.IsText style.primary,
    S.optional "use_case_direction" (S.IsChoice Direction.spellings) style.direction]

theorem shape_lists (style : StyleOverrides) : shape.Lists (style.layout S) :=
  ⟨rfl, rfl, by decide⟩

def Spelled (value : τ) (style : StyleOverrides) : Prop :=
  S.Spells true (style.layout S) value

end StyleOverrides

namespace MessageSpec

def layout (message : MessageSpec) : List (Field τ) :=
  [S.optional "from" S.IsText message.source, S.optional "to" S.IsText message.target,
    S.choice "arrow" Arrow.spellings .sync message.arrow, S.text "text" message.text]

theorem shape_lists (message : MessageSpec) : shape.Lists (message.layout S) :=
  ⟨rfl, rfl, by decide⟩

def Spelled (value : τ) (message : MessageSpec) : Prop :=
  S.Spells false (message.layout S) value

end MessageSpec

namespace SequenceSection

def layout (part : SequenceSection) : List (Field τ) :=
  [S.list "actors" S.IsText part.actors,
    S.list "messages" (MessageSpec.Spelled S) part.messages]

theorem shape_lists (part : SequenceSection) : shape.Lists (part.layout S) :=
  ⟨rfl, rfl, by decide⟩

def Spelled (value : τ) (part : SequenceSection) : Prop :=
  S.Spells false (part.layout S) value

end SequenceSection

namespace ClassAttribute

def layout (attr : ClassAttribute) : List (Field τ) :=
  [S.text "name" attr.name, S.choice "visibility" Visibility.spellings .isPublic attr.visibility,
    S.text "type" attr.type, S.flag "static" attr.isStatic]

theorem shape_lists (attr : ClassAttribute) : shape.Lists (attr.layout S) :=
  ⟨rfl, rfl, by decide⟩

def Spelled (value : τ) (attr : ClassAttribute) : Prop :=
  S.Spells false (attr.layout S) value

end ClassAttribute

namespace ClassMethod

def layout (method : ClassMethod) : List (Field τ) :=
  [S.text "name" method.name,
    S.choice "visibility" Visibility.spellings .isPublic method.visibility,
    S.text "return_type" method.returnType, S.text "parameters" method.parameters,
    S.flag "static" method.isStatic, S.flag "abstract" method.isAbstract]

theorem shape_lists (method : ClassMethod) : shape.Lists (method.layout S) :=
  ⟨rfl, rfl, by decide⟩

def Spelled (value : τ) (method : ClassMethod) : Prop :=
  S.Spells false (method.layout S) value

end ClassMethod

namespace ClassSpec

def layout (c : ClassSpec) : List (Field τ) :=
  [S.text "name" c.name, S.flag "abstract" c.isAbstract,
    S.list "attributes" (ClassAttribute.Spelled S) c.attributes,
    S.list "methods" (ClassMethod.Spelled S) c.methods]

theorem shape_lists (c : ClassSpec) : shape.Lists (c.layout S) :=
  ⟨rfl, rfl, by decide⟩

def Spelled (value : τ) (c : ClassSpec) : Prop :=
  S.Spells false (c.layout S) value

end ClassSpec

namespace RelationSpec

variable {α : Type} (spellings : List (String × α)) (usual : α)

def layout (relation : RelationSpec α) : List (Field τ) :=
  [S.optional "from" S.IsText relation.source, S.optional "to" S.IsText relation.target,
    S.choice "kind" spellings usual relation.kind, S.text "label" relation.label]

theorem shape_lists (relation : RelationSpec α) :
    shape.Lists (relation.layout S spellings usual) :=
  ⟨rfl, rfl, by decide⟩

def Spelled (value : τ) (relation : RelationSpec α) : Prop :=
  S.Spells false (relation.layout S spellings usual) value

end RelationSpec

namespace ClassSection

def layout (part : ClassSection) : List (Field τ) :=
  [S.list "classes" (ClassSpec.Spelled S) part.classes,
    S.list "relationships" (RelationSpec.Spelled S ClassRelation.spellings .inheritance)
      part.relationships]

theorem shape_lists (part : ClassSection) : shape.Lists (part.layout S) :=
  ⟨rfl, rfl, by decide⟩

def Spelled (value : τ) (part : ClassSection) : Prop :=
  S.Spells false (part.layout S) value

end ClassSection

namespace LinkSpec

def layout (link : LinkSpec) : List (Field τ) :=
  [S.optional "actor" S.IsText link.actor, S.optional "use_case" S.IsText link.useCase]

theorem shape_lists (link : LinkSpec) : shape.Lists (link.layout S) :=
  ⟨rfl, rfl, by decide⟩

def Spelled (value : τ) (link : LinkSpec) : Prop :=
  S.Spells false (link.layout S) value

end LinkSpec

namespace UseCaseSection

def layout (part : UseCaseSection) : List (Field τ) :=
  [S.list "actors" S.IsText part.actors, S.list "use_cases" S.IsText part.useCases,
    S.list "links" (LinkSpec.Spelled S) part.links]

theorem shape_lists (part : UseCaseSection) : shape.Lists (part.layout S) :=
  ⟨rfl, rfl, by decide⟩

def Spelled (value : τ) (part : UseCaseSection) : Prop :=
  S.Spells false (part.layout S) value

end UseCaseSection

namespace EntityAttribute

def layout (attr : EntityAttribute) : List (Field τ) :=
  [S.text "name" attr.name, S.text "type" attr.type, S.flag "pk" attr.isPrimaryKey,
    S.flag "fk" attr.isForeignKey, S.flag "not_null" attr.isNotNull]

theorem shape_lists (attr : EntityAttribute) : shape.Lists (attr.layout S) :=
  ⟨rfl, rfl, by decide⟩

def Spelled (value : τ) (attr : EntityAttribute) : Prop :=
  S.Spells false (attr.layout S) value

end EntityAttribute

namespace EntitySpec

def layout (entity : EntitySpec) : List (Field τ) :=
  [S.text "name" entity.name,
    S.list "attributes" (EntityAttribute.Spelled S) entity.attributes]

theorem shape_lists (entity : EntitySpec) : shape.Lists (entity.layout S) :=
  ⟨rfl, rfl, by decide⟩

def Spelled (value : τ) (entity : EntitySpec) : Prop :=
  S.Spells false (entity.layout S) value

end EntitySpec

namespace EntitySection

def layout (part : EntitySection) : List (Field τ) :=
  [S.list "entities" (EntitySpec.Spelled S) part.entities,
    S.list "relationships" (RelationSpec.Spelled S ErRelation.spellings .oneToMany)
      part.relationships]

theorem shape_lists (part : EntitySection) : shape.Lists (part.layout S) :=
  ⟨rfl, rfl, by decide⟩

def Spelled (value : τ) (part : EntitySection) : Prop :=
  S.Spells false (part.layout S) value

end EntitySection

namespace FlowSpec

def layout (flow : FlowSpec) : List (Field τ) :=
  [S.optional "from" S.IsText flow.source, S.optional "to" S.IsText flow.target]

theorem shape_lists (flow : FlowSpec) : shape.Lists (flow.layout S) :=
  ⟨rfl, rfl, by decide⟩

def Spelled (value : τ) (flow : FlowSpec) : Prop :=
  S.Spells false (flow.layout S) value

end FlowSpec

namespace FlowSection

variable (nodes edges : String)

def layout (part : FlowSection) : List (Field τ) :=
  [S.list nodes S.IsText part.nodes, S.list edges (FlowSpec.Spelled S) part.edges]

theorem shape_lists {nodes edges : String} (hnames : nodes ≠ edges) (part : FlowSection) :
    (shape nodes edges).Lists (part.layout S nodes edges) :=
  ⟨rfl, rfl, by simpa [shape] using hnames⟩

def Spelled (value : τ) (part : FlowSection) : Prop :=
  S.Spells false (part.layout S nodes edges) value

end FlowSection

namespace TransitionSpec

def layout (transition : TransitionSpec) : List (Field τ) :=
  [S.optional "from" S.IsText transition.source, S.optional "to" S.IsText transition.target,
    S.text "event" transition.event]

theorem shape_lists (transition : TransitionSpec) : shape.Lists (transition.layout S) :=
  ⟨rfl, rfl, by decide⟩

def Spelled (value : τ) (transition : TransitionSpec) : Prop :=
  S.Spells false (transition.layout S) value

end TransitionSpec

namespace StateSection

def layout (part : StateSection) : List (Field τ) :=
  [S.list "states" S.IsText part.states,
    S.list "transitions" (TransitionSpec.Spelled S) part.transitions]

theorem shape_lists (part : StateSection) : shape.Lists (part.layout S) :=
  ⟨rfl, rfl, by decide⟩

def Spelled (value : τ) (part : StateSection) : Prop :=
  S.Spells false (part.layout S) value

end StateSection

namespace Document

def layout (d : Document) : List (Field τ) :=
  [S.choice "kind" Kind.spellings .sequence d.kind,
    .record "style" [] {} (StyleOverrides.Spelled S) d.style,
    .record "sequence" [] {} (SequenceSection.Spelled S) d.sequence,
    .record "class" [] {} (ClassSection.Spelled S) d.classes,
    .record "usecase" ["use_case"] {} (UseCaseSection.Spelled S) d.useCase,
    .record "erd" ["er"] {} (EntitySection.Spelled S) d.entity,
    .record "activity" [] {} (FlowSection.Spelled S "activities" "flows") d.activity,
    .record "component" [] {} (FlowSection.Spelled S "components" "dependencies") d.component,
    .record "state" [] {} (StateSection.Spelled S) d.state]

theorem shape_lists (d : Document) : shape.Lists (d.layout S) :=
  ⟨rfl, rfl, by decide⟩

def Spelled (tree : τ) (d : Document) : Prop :=
  S.Spells true (d.layout S) tree

def keys : List String :=
  ["kind", "style", "sequence", "class", "usecase", "use_case", "erd", "er", "activity",
    "component", "state"]

def styleKeys : List String :=
  ["background_color", "text_color", "primary_color", "use_case_direction"]

/-- The tree is a table with a key that a document does not have, or whose style has a key that a
style does not have. -/
def HasStrayKey (tree : τ) : Prop :=
  ∃ entries, S.IsTable tree entries ∧
    ((∃ e ∈ entries, e.1 ∉ keys) ∨
      ∃ style inner, ("style", style) ∈ entries ∧ S.IsTable style inner ∧
        ∃ e ∈ inner, e.1 ∉ styleKeys)

end Document

end UmlDiagrams
