import UmlDiagrams.Diagram.Relation
import UmlDiagrams.Graph.Edits
import UmlDiagrams.Reply
/-!
# Entity-relationship diagrams

Entities with typed attributes, and the relationships between entities. Between two entities there
is at most one relationship of a kind in each direction.
-/

namespace UmlDiagrams

structure EntityRecord where
  id : Id
  name : String
  attributes : List EntityAttribute
deriving DecidableEq, Repr

abbrev EntityDiagram := Graph Id EntityRecord (Relation ErRelation)

inductive EntityEdit where
  | addEntity (name : String)
  | removeEntity (id : Id)
  | addAttribute (id : Id) (attr : EntityAttribute)
  | removeAttribute (id : Id) (index : Nat)
  | addRelationship (source target : Option Id) (kind : ErRelation) (label : String)
  | removeRelationship (id : Id)
  | setKind (id : Id) (kind : ErRelation)
  | retarget (id source target : Id)
  | setLabel (id : Id) (label : String)
deriving DecidableEq, Repr

namespace EntityDiagram

def rules : Rules Id EntityRecord (Relation ErRelation) where
  kind := .entity
  nodes := .entities
  edges := .erRelationships
  key := (·.id)
  name := (·.name)
  reference := .id
  clash := fun r s => r.kind = s.kind

def byName? (d : EntityDiagram) (name : String) : Option EntityRecord :=
  d.nodes.find? fun e => e.name = name

def apply : EntityEdit → Editing EntityDiagram Reply
  | .addEntity name =>
    return .created (← Graph.addNode rules name fun id name => ⟨id, name, []⟩)
  | .removeEntity id => return .removed (← Graph.removeNode rules id)
  | .addAttribute id attr => do
    let name ← memberName .entityAttributes attr.name
    Graph.reviseNode rules id .entityAttributes fun e =>
      .ok (.done, { e with attributes := e.attributes ++ [{ attr with name }] })
  | .removeAttribute id index =>
    Graph.reviseNode rules id .entityAttributes fun e => do
      let (attr, attributes) ← Graph.takeMember .entityAttributes e.attributes index
      return (.entityAttribute attr, { e with attributes })
  | .addRelationship source target kind label =>
    return .created (← Graph.addEdge rules source target ⟨kind, label⟩)
  | .removeRelationship id => return .removed (← Graph.removeEdge rules id)
  | .setKind id kind => do
    Graph.retypeEdge rules id ({ · with kind })
    return .done
  | .retarget id source target => do
    Graph.retarget rules id source target
    return .done
  | .setLabel id label => do
    Graph.reviseEdge rules id ({ · with label })
    return .done

end EntityDiagram

end UmlDiagrams
