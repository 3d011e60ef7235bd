import Mathlib.Logic.Function.Basic
import UmlDiagrams.Proofs.Store.Notices
/-!
# Records by collection

All that a store holds, as one table of records by collection, and what each edit is given of it.
Nodes known by their names stand there without an identifier.
-/

namespace UmlDiagrams

/-- An entry of a collection. Members stand in the class or the entity that holds them. -/
inductive Record where
  | name (text : String)
  | message (edge : Edge String Message)
  | classRecord (record : ClassRecord)
  | classRelationship (edge : Edge Id (Relation ClassRelation))
  | useCaseLink (link : UseCaseLink)
  | entity (record : EntityRecord)
  | erRelationship (edge : Edge Id (Relation ErRelation))
  | flow (edge : Edge String Unit)
  | transition (edge : Edge String String)
deriving DecidableEq, Repr

namespace Record

def id? : Record → Option Id
  | name _ => none
  | message e => some e.id
  | classRecord c => some c.id
  | classRelationship e => some e.id
  | useCaseLink l => some l.id
  | entity e => some e.id
  | erRelationship e => some e.id
  | flow e => some e.id
  | transition e => some e.id

def ends : Record → List Id
  | classRelationship e => [e.source, e.target]
  | erRelationship e => [e.source, e.target]
  | _ => []

end Record

namespace Collection

def all : List Collection :=
  [actors, messages, classes, classAttributes, classMethods, classRelationships, useCaseActors,
    useCases, useCaseLinks, entities, entityAttributes, erRelationships, activities, activityFlows,
    components, componentDependencies, states, stateTransitions, style]

def numbering? : Collection → Option Kind
  | messages => some .sequence
  | classes | classRelationships => some .classes
  | useCaseLinks => some .useCase
  | entities | erRelationships => some .entity
  | activityFlows => some .activity
  | componentDependencies => some .component
  | stateTransitions => some .state
  | _ => none

def relationships? : Collection → Option Collection
  | classes => some classRelationships
  | entities => some erRelationships
  | _ => none

theorem mem_all (c : Collection) : c ∈ all := by
  cases c <;> decide

theorem nodup_all : all.Nodup := by
  decide

end Collection

namespace Store

/-- The records of each collection, in their order. -/
def records (s : Store) : Collection → List Record
  | .actors => s.sequence.nodes.map .name
  | .messages => s.sequence.edges.map .message
  | .classes => s.classes.nodes.map .classRecord
  | .classRelationships => s.classes.edges.map .classRelationship
  | .useCaseActors => s.useCase.actors.map .name
  | .useCases => s.useCase.useCases.map .name
  | .useCaseLinks => s.useCase.links.map .useCaseLink
  | .entities => s.entity.nodes.map .entity
  | .erRelationships => s.entity.edges.map .erRelationship
  | .activities => s.activity.nodes.map .name
  | .activityFlows => s.activity.edges.map .flow
  | .components => s.component.nodes.map .name
  | .componentDependencies => s.component.edges.map .flow
  | .states => s.state.nodes.map .name
  | .stateTransitions => s.state.edges.map .transition
  | .classAttributes | .classMethods | .entityAttributes | .style => []

def issued (s : Store) : Kind → Nat
  | .sequence => s.sequence.issued
  | .classes => s.classes.issued
  | .useCase => s.useCase.issued
  | .entity => s.entity.issued
  | .activity => s.activity.issued
  | .component => s.component.issued
  | .state => s.state.issued

def idsIn (s : Store) (c : Collection) : List Id :=
  (s.records c).filterMap Record.id?

theorem mem_idsIn {s : Store} {c : Collection} {id : Id} :
    id ∈ s.idsIn c ↔ ∃ r ∈ s.records c, r.id? = some id :=
  List.mem_filterMap

/-- The records that have this identifier, each with its collection. -/
def bearers (s : Store) (id : Id) : List (Collection × Record) :=
  Collection.all.flatMap fun c =>
    ((s.records c).filter fun r => r.id? = some id).map fun r => (c, r)

def lookup? (s : Store) : Collection → Id → Option Record
  | .messages, id => (s.sequence.findEdge? id).map .message
  | .classes, id => (s.classes.findNode? ClassDiagram.rules id).map .classRecord
  | .entities, id => (s.entity.findNode? EntityDiagram.rules id).map .entity
  | _, _ => none

end Store

/-- What an accepted edit does to the records. -/
inductive Deed where
  /-- It adds one to the collection. -/
  | add (c : Collection)
  /-- It changes the one with this identifier. -/
  | revise (c : Collection) (id : Id)
  /-- It removes the one with this identifier, and the relationships at it. -/
  | remove (c : Collection) (id : Id)
  /-- At most it takes some away. -/
  | clear
deriving DecidableEq, Repr

def SequenceEdit.deed : SequenceEdit → Deed
  | addActor _ => .add .actors
  | removeActor _ => .clear
  | addMessage .. => .add .messages
  | removeMessage id => .remove .messages id
  | retarget id _ _ | setArrow id _ | setText id _ => .revise .messages id

def ClassEdit.deed : ClassEdit → Deed
  | addClass .. => .add .classes
  | removeClass id => .remove .classes id
  | setAbstract id _ | addAttribute id _ | removeAttribute id _ | addMethod id _
  | removeMethod id _ => .revise .classes id
  | addRelationship .. => .add .classRelationships
  | removeRelationship id => .remove .classRelationships id
  | setKind id _ | retarget id _ _ | setLabel id _ => .revise .classRelationships id

def UseCaseEdit.deed : UseCaseEdit → Deed
  | addActor _ => .add .useCaseActors
  | addUseCase _ => .add .useCases
  | removeActor _ | removeUseCase _ => .clear
  | addLink .. => .add .useCaseLinks
  | removeLink id => .remove .useCaseLinks id

def EntityEdit.deed : EntityEdit → Deed
  | addEntity _ => .add .entities
  | removeEntity id => .remove .entities id
  | addAttribute id _ | removeAttribute id _ => .revise .entities id
  | addRelationship .. => .add .erRelationships
  | removeRelationship id => .remove .erRelationships id
  | setKind id _ | retarget id _ _ | setLabel id _ => .revise .erRelationships id

def FlowEdit.deed (nodes edges : Collection) : FlowEdit → Deed
  | addNode _ => .add nodes
  | removeNode _ => .clear
  | addEdge .. => .add edges
  | removeEdge id => .remove edges id

def StateEdit.deed : StateEdit → Deed
  | addState _ => .add .states
  | removeState _ => .clear
  | addTransition .. => .add .stateTransitions
  | removeTransition id => .remove .stateTransitions id
  | setEvent id _ => .revise .stateTransitions id

def Edit.deed : Edit → Deed
  | sequence edit => edit.deed
  | classes edit => edit.deed
  | useCase edit => edit.deed
  | entity edit => edit.deed
  | activity edit => edit.deed .activities .activityFlows
  | component edit => edit.deed .components .componentDependencies
  | state edit => edit.deed
  | style _ | setKind _ | clear => .clear

def Operation.deed : Operation → Deed
  | edit e => e.deed
  | takeChanges => .clear

/-- The stores agree in what is not in the diagrams. -/
structure Store.SameSettings (s s' : Store) : Prop where
  kind : s'.kind = s.kind
  style : s'.style = s.style
  epoch : s'.epoch = s.epoch

/-- What the deed makes of the records of a store. A new record has the next number of the diagram,
if records of its collection have numbers. -/
def Deed.Done (s s' : Store) : Deed → Prop
  | .add c => (∃ r, r.id? = c.numbering?.map (fun kind => ⟨kind, s.issued kind⟩) ∧
      s'.records = Function.update s.records c (s.records c ++ [r])) ∧
      (∀ kind, s.issued kind ≤ s'.issued kind) ∧
      ∀ kind, c.numbering? = some kind → s.issued kind < s'.issued kind
  | .revise c id => (∃ old ∈ s.records c, ∃ new, old.id? = some id ∧ new.id? = some id ∧
      s'.records = Function.update s.records c
        ((s.records c).map fun r => if r.id? = some id then new else r)) ∧
      s'.issued = s.issued ∧ s.SameSettings s'
  | .remove c id => id ∈ s.idsIn c ∧
      (∀ c', s'.records c' =
        if c' = c then (s.records c').filter fun r => r.id? ≠ some id
        else if c.relationships? = some c' then (s.records c').filter fun r => id ∉ r.ends
        else s.records c') ∧
      s'.issued = s.issued ∧ s.SameSettings s'
  | .clear => (∀ c, (s'.records c).Sublist (s.records c)) ∧ s'.issued = s.issued

/-- The identifiers that the edit is given besides that of the record it changes or removes: the
ends of a relationship. -/
def Edit.ends : Edit → List (Collection × Id)
  | classes (.addRelationship source target _ _) =>
    (source.toList ++ target.toList).map (Collection.classes, ·)
  | classes (.retarget _ source target) => [source, target].map (Collection.classes, ·)
  | entity (.addRelationship source target _ _) =>
    (source.toList ++ target.toList).map (Collection.entities, ·)
  | entity (.retarget _ source target) => [source, target].map (Collection.entities, ·)
  | _ => []

def Edit.given (edit : Edit) : List (Collection × Id) :=
  match edit.deed with
  | .revise c id | .remove c id => (c, id) :: edit.ends
  | _ => edit.ends

end UmlDiagrams
