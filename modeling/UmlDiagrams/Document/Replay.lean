import UmlDiagrams.Document.Basic
/-!
# Replay of a document

A document acts on a store as a list of steps: style, then section by section the nodes, each
followed by its members, and then the edges. The first rejected step ends the replay. What was done
before it stays done.
-/

namespace UmlDiagrams

/-- The place in a document that a step comes from. -/
inductive Place where
  | style (field : String)
  /-- A node or member, by what it is and its name as written. -/
  | record (what name : String)
  /-- A member of a node. -/
  | member (owner ownerName what name : String)
  /-- An edge, by what it is and its position, counted from one. -/
  | edge (what : String) (position : Nat)
deriving DecidableEq, Repr

def Place.text : Place → String
  | style field => "style " ++ field
  | record what name => what ++ " '" ++ name ++ "'"
  | member owner ownerName what name =>
    owner ++ " '" ++ ownerName ++ "' " ++ what ++ " '" ++ name ++ "'"
  | edge what position => what ++ " #" ++ toString position

/-- What a step does. Members go to the record added last; relationships name their ends. -/
inductive Action where
  | edit (edit : Edit)
  | classAttribute (attr : ClassAttribute)
  | classMethod (method : ClassMethod)
  | classRelationship (spec : RelationSpec ClassRelation)
  | entityAttribute (attr : EntityAttribute)
  | erRelationship (spec : RelationSpec ErRelation)
deriving DecidableEq, Repr

structure Step where
  place : Place
  action : Action
deriving DecidableEq, Repr

/-- A replay that ended early: where and why. -/
structure ReplayError where
  place : Place
  reason : Rejection
deriving DecidableEq, Repr

def ReplayError.message (showId : Id → String) (e : ReplayError) : String :=
  e.place.text ++ ": " ++ e.reason.message showId

def resolveEnd (collection : Collection) (find : String → Option Id) :
    Option String → Except Rejection (Option Id)
  | none => .ok none
  | some name =>
    match find name with
    | some id => .ok (some id)
    | none => .error (.unknownEndpoint collection (.name name))

namespace Action

/-- The identifier of the record added last; for an empty list, the identifier of no record. -/
def lastId (kind : Kind) (ids : List Id) (issued : Nat) : Id :=
  ids.getLast?.getD ⟨kind, issued⟩

def resolve (s : Store) : Action → Except Rejection Edit
  | edit e => .ok e
  | classAttribute attr =>
    .ok (.classes (.addAttribute
      (lastId .classes (s.classes.nodes.map (·.id)) s.classes.issued) attr))
  | classMethod method =>
    .ok (.classes (.addMethod
      (lastId .classes (s.classes.nodes.map (·.id)) s.classes.issued) method))
  | classRelationship spec => do
    let find := fun name => (s.classes.byName? name).map (·.id)
    let source ← resolveEnd .classes find spec.source
    let target ← resolveEnd .classes find spec.target
    return .classes (.addRelationship source target spec.kind spec.label)
  | entityAttribute attr =>
    .ok (.entity (.addAttribute
      (lastId .entity (s.entity.nodes.map (·.id)) s.entity.issued) attr))
  | erRelationship spec => do
    let find := fun name => (s.entity.byName? name).map (·.id)
    let source ← resolveEnd .entities find spec.source
    let target ← resolveEnd .entities find spec.target
    return .entity (.addRelationship source target spec.kind spec.label)

def perform (a : Action) : Editing Store Unit := do
  let edit ← a.resolve (← get)
  let _ ← Store.apply edit
  return ()

end Action

def Store.replay (s : Store) : List Step → Store × Except ReplayError Unit
  | [] => (s, .ok ())
  | step :: rest =>
    match step.action.perform.run s with
    | .ok () s' => s'.replay rest
    | .error reason s' => (s', .error ⟨step.place, reason⟩)

/-- One step for each edge of a list, numbered from one. -/
def edgeSteps {α : Type} (what : String) (action : α → Action) (specs : List α) : List Step :=
  specs.mapIdx fun i spec => ⟨.edge what (i + 1), action spec⟩

/-- One step for each named node. -/
def nodeSteps (what : String) (edit : String → Edit) (names : List String) : List Step :=
  names.map fun name => ⟨.record what name, .edit (edit name)⟩

def fieldSteps {α : Type} (name : String) (edit : α → StyleEdit) (value : Option α) : List Step :=
  value.toList.map fun v => ⟨.style name, .edit (.style (edit v))⟩

def StyleOverrides.steps (o : StyleOverrides) : List Step :=
  fieldSteps "background_color" .background o.background ++
    fieldSteps "text_color" .text o.text ++
    fieldSteps "primary_color" .primary o.primary ++
    fieldSteps "use_case_direction" .direction o.direction

def SequenceSection.steps (c : SequenceSection) : List Step :=
  nodeSteps "sequence actor" (.sequence <| .addActor ·) c.actors ++
    edgeSteps "sequence message"
      (fun m => .edit (.sequence (.addMessage m.source m.target m.arrow m.text))) c.messages

def ClassSpec.steps (c : ClassSpec) : List Step :=
  [⟨.record "class" c.name, .edit (.classes (.addClass c.name c.isAbstract))⟩] ++
    c.attributes.map (fun a => ⟨.member "class" c.name "attribute" a.name, .classAttribute a⟩) ++
    c.methods.map fun m => ⟨.member "class" c.name "method" m.name, .classMethod m⟩

def ClassSection.steps (c : ClassSection) : List Step :=
  c.classes.flatMap ClassSpec.steps ++
    edgeSteps "class relationship" .classRelationship c.relationships

def UseCaseSection.steps (c : UseCaseSection) : List Step :=
  nodeSteps "use-case actor" (.useCase <| .addActor ·) c.actors ++
    nodeSteps "use case" (.useCase <| .addUseCase ·) c.useCases ++
    edgeSteps "use-case link" (fun l => .edit (.useCase (.addLink l.actor l.useCase))) c.links

def EntitySpec.steps (e : EntitySpec) : List Step :=
  [⟨.record "entity" e.name, .edit (.entity (.addEntity e.name))⟩] ++
    e.attributes.map fun a => ⟨.member "entity" e.name "attribute" a.name, .entityAttribute a⟩

def EntitySection.steps (c : EntitySection) : List Step :=
  c.entities.flatMap EntitySpec.steps ++
    edgeSteps "ER relationship" .erRelationship c.relationships

def FlowSection.steps (node edge : String) (edit : FlowEdit → Edit) (c : FlowSection) :
    List Step :=
  nodeSteps node (fun name => edit (.addNode name)) c.nodes ++
    edgeSteps edge (fun f => .edit (edit (.addEdge f.source f.target))) c.edges

def StateSection.steps (c : StateSection) : List Step :=
  nodeSteps "state" (.state <| .addState ·) c.states ++
    edgeSteps "state transition"
      (fun t => .edit (.state (.addTransition t.source t.target t.event))) c.transitions

namespace Document

def steps (d : Document) : List Step :=
  d.style.steps ++ d.sequence.steps ++ d.classes.steps ++ d.useCase.steps ++ d.entity.steps ++
    d.activity.steps "activity" "activity flow" .activity ++
    d.component.steps "component" "component dependency" .component ++ d.state.steps

/-- Replays the document; its kind becomes active if no step is rejected. -/
def apply (d : Document) (s : Store) : Store × Except ReplayError Unit :=
  match s.replay d.steps with
  | (s', .ok ()) => (s'.setKind d.kind, .ok ())
  | (s', .error e) => (s', .error e)

end Document

end UmlDiagrams
