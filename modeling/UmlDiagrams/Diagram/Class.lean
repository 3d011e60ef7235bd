import UmlDiagrams.Diagram.Relation
import UmlDiagrams.Graph.Edits
import UmlDiagrams.Reply
/-!
# Class diagrams

Classes with their members, and the relationships between classes. Between two classes there is at
most one relationship of a kind in each direction.
-/

namespace UmlDiagrams

structure ClassRecord where
  id : Id
  name : String
  isAbstract : Bool
  attributes : List ClassAttribute
  methods : List ClassMethod
deriving DecidableEq, Repr

abbrev ClassDiagram := Graph Id ClassRecord (Relation ClassRelation)

inductive ClassEdit where
  | addClass (name : String) (isAbstract : Bool)
  | removeClass (id : Id)
  | setAbstract (id : Id) (isAbstract : Bool)
  | addAttribute (id : Id) (attr : ClassAttribute)
  | removeAttribute (id : Id) (index : Nat)
  | addMethod (id : Id) (method : ClassMethod)
  | removeMethod (id : Id) (index : Nat)
  | addRelationship (source target : Option Id) (kind : ClassRelation) (label : String)
  | removeRelationship (id : Id)
  | setKind (id : Id) (kind : ClassRelation)
  | retarget (id source target : Id)
  | setLabel (id : Id) (label : String)
deriving DecidableEq, Repr

namespace ClassDiagram

def rules : Rules Id ClassRecord (Relation ClassRelation) where
  kind := .classes
  nodes := .classes
  edges := .classRelationships
  key := (·.id)
  name := (·.name)
  reference := .id
  clash := fun r s => r.kind = s.kind

def byName? (d : ClassDiagram) (name : String) : Option ClassRecord :=
  d.nodes.find? fun c => c.name = name

def apply : ClassEdit → Editing ClassDiagram Reply
  | .addClass name isAbstract =>
    return .created (← Graph.addNode rules name fun id name => ⟨id, name, isAbstract, [], []⟩)
  | .removeClass id => return .removed (← Graph.removeNode rules id)
  | .setAbstract id isAbstract =>
    Graph.reviseNode rules id .classes fun c => .ok (.done, { c with isAbstract })
  | .addAttribute id attr => do
    let name ← memberName .classAttributes attr.name
    Graph.reviseNode rules id .classAttributes fun c =>
      .ok (.done, { c with attributes := c.attributes ++ [{ attr with name }] })
  | .removeAttribute id index =>
    Graph.reviseNode rules id .classAttributes fun c => do
      let (attr, attributes) ← Graph.takeMember .classAttributes c.attributes index
      return (.classAttribute attr, { c with attributes })
  | .addMethod id method => do
    let name ← memberName .classMethods method.name
    Graph.reviseNode rules id .classMethods fun c =>
      .ok (.done, { c with methods := c.methods ++ [{ method with name }] })
  | .removeMethod id index =>
    Graph.reviseNode rules id .classMethods fun c => do
      let (method, methods) ← Graph.takeMember .classMethods c.methods index
      return (.classMethod method, { c with methods })
  | .addRelationship source target kind label =>
    return .created (← Graph.addEdge rules source target ⟨kind, label⟩)
  | .removeRelationship id => return .removed (← Graph.removeEdge rules id)
  | .setKind id kind => do
    Graph.retypeEdge rules id ({ · with kind })
    return .done
  | .retarget id source target => do
    Graph.retarget rules id source target
    return .done
  | .setLabel id label => do
    Graph.reviseEdge rules id ({ · with label })
    return .done

end ClassDiagram

end UmlDiagrams
