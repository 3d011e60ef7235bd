import UmlDiagrams.Diagram.Class
import UmlDiagrams.Diagram.Entity
import UmlDiagrams.Proofs.Graph.Translation
/-!
# Diagrams of records

Class and entity diagrams have edits in common. Once flags, methods and all that is said of an
attribute besides its name are forgotten, the two do the same, step by step.
-/

namespace UmlDiagrams

open Stateful UmlDiagrams.Graph

/-- An edit that class and entity diagrams have in common. It tells what either needs to know;
identifiers are meant as those of a class diagram. -/
inductive RecordEdit where
  | addNode (name : String) (isAbstract : Bool)
  | removeNode (id : Id)
  | addAttribute (id : Id) (name : String) (attr : ClassAttribute) (column : EntityAttribute)
  | removeAttribute (id : Id) (index : Nat)
  | addRelationship (source target : Option Id) (kind : ErRelation) (label : String)
  | removeRelationship (id : Id)
  | setKind (id : Id) (kind : ErRelation)
  | retarget (id source target : Id)
  | setLabel (id : Id) (label : String)
  | clear
deriving DecidableEq, Repr

/-- What the edits of records have to know about a diagram: how its identifiers, relationships and
attributes are made, and what is answered when an attribute is taken away. -/
structure RecordRules (ν δ : Type) extends Rules Id ν (Relation δ) where
  attributes : Collection
  record : Id → Id
  relation : ErRelation → δ
  build : Bool → Id → String → ν
  attach : ClassAttribute → EntityAttribute → String → ν → ν
  detach : Nat → ν → Except Rejection (Reply × ν)

def RecordEdit.perform {ν δ : Type} (X : RecordRules ν δ) :
    RecordEdit → Editing (Graph Id ν (Relation δ)) Reply
  | addNode name isAbstract => return .created (← Graph.addNode X.toRules name (X.build isAbstract))
  | removeNode id => return .removed (← Graph.removeNode X.toRules (X.record id))
  | addAttribute id name attr column => do
    let name ← memberName X.attributes name
    Graph.reviseNode X.toRules (X.record id) X.attributes fun n =>
      .ok (.done, X.attach attr column name n)
  | removeAttribute id index =>
    Graph.reviseNode X.toRules (X.record id) X.attributes (X.detach index)
  | addRelationship source target kind label =>
    return .created
      (← Graph.addEdge X.toRules (source.map X.record) (target.map X.record)
        ⟨X.relation kind, label⟩)
  | removeRelationship id => return .removed (← Graph.removeEdge X.toRules (X.record id))
  | setKind id kind => do
    Graph.retypeEdge X.toRules (X.record id) fun r => { r with kind := X.relation kind }
    return .done
  | retarget id source target => do
    Graph.retarget X.toRules (X.record id) (X.record source) (X.record target)
    return .done
  | setLabel id label => do
    Graph.reviseEdge X.toRules (X.record id) fun r => { r with label }
    return .done
  | clear => do
    modify (Graph.clear X.toRules)
    return .done

/-- A translation that respects what the edits of records have to know. -/
structure RecordTranslation {ν ν' δ δ' : Type} (X : RecordRules ν δ) (Y : RecordRules ν' δ') extends
    Translation X.toRules Y.toRules where
  reply : Reply → Reply
  relation : δ → δ'
  key_eq : key = names.record
  data_eq : data = fun r => ⟨relation r.kind, r.label⟩
  attributes_eq : Y.attributes = names.collection X.attributes
  record_eq : ∀ id, Y.record id = names.record (X.record id)
  relation_eq : ∀ kind, Y.relation kind = relation (X.relation kind)
  prints : printKey Y.nodes = printKey X.nodes
  build_eq : ∀ isAbstract id name,
    Y.build isAbstract (names.record id) name = node (X.build isAbstract id name)
  attach_eq : ∀ attr column name n,
    Y.attach attr column name (node n) = node (X.attach attr column name n)
  detach_eq : ∀ index n,
    Y.detach index (node n) = outcomeImage names.rejection (Prod.map reply node) (X.detach index n)
  created : ∀ id, reply (.created id) = .created (names.record id)
  removed : ∀ found, reply (.removed found) = .removed found
  done : reply .done = .done

namespace RecordTranslation

variable {ν ν' δ δ' : Type} {X : RecordRules ν δ} {Y : RecordRules ν' δ'}
  (T : RecordTranslation X Y)

private theorem key_record (id : Id) : T.key (X.record id) = Y.record id := by
  rw [T.key_eq, T.record_eq]

private theorem data_mk (kind : δ) (label : String) :
    T.data ⟨kind, label⟩ = ⟨T.relation kind, label⟩ := by
  rw [T.data_eq]

private theorem perform_mirrors (edit : RecordEdit) (g : Graph Id ν (Relation δ)) :
    T.Mirrors T.reply (edit.perform X) (edit.perform Y) g := by
  cases edit with
  | addNode name isAbstract =>
    refine Mirrors.answer (Translation.addNode_mirrors (T.build_eq isAbstract) fun n _ => ?_)
      fun id => (T.created id).symm
    rw [T.prints]
  | removeNode node =>
    have h := Translation.removeNode_mirrors (T := T.toTranslation) (g := g) (X.record node)
    rw [key_record] at h
    exact h.answer fun found => (T.removed found).symm
  | addAttribute node name attr column =>
    have hname : memberName Y.attributes name =
        outcomeImage T.names.rejection id (memberName X.attributes name) := by
      rw [T.attributes_eq, Renaming.memberName_renamed]
    refine Mirrors.check hname fun text => ?_
    rw [T.attributes_eq, T.record_eq]
    refine Translation.reviseNode_mirrors T.key_eq _ _ fun n => ?_
    rw [id, T.attach_eq]
    exact congrArg (fun answer => Except.ok (answer, _)) T.done.symm
  | removeAttribute node index =>
    rw [RecordEdit.perform, RecordEdit.perform, T.attributes_eq, T.record_eq]
    exact Translation.reviseNode_mirrors T.key_eq _ _ (T.detach_eq index)
  | addRelationship source target kind label =>
    have h := Translation.addEdge_mirrors (T := T.toTranslation) (g := g) (source.map X.record)
      (target.map X.record) ⟨X.relation kind, label⟩
    simp only [Option.map_map, Function.comp_def, key_record, data_mk, ← T.relation_eq] at h
    exact h.answer fun id => (T.created id).symm
  | removeRelationship edge =>
    have h := Translation.removeEdge_mirrors (T := T.toTranslation) (g := g) (X.record edge)
    rw [← T.record_eq] at h
    exact h.answer fun found => (T.removed found).symm
  | setKind edge kind =>
    have h := Translation.retypeEdge_mirrors (T := T.toTranslation) (g := g) (X.record edge)
      (fun r => { r with kind := X.relation kind }) (fun r => { r with kind := Y.relation kind })
      fun r => by simp only [T.data_eq, T.relation_eq]
    rw [← T.record_eq] at h
    exact h.answer fun _ => T.done.symm
  | retarget edge source target =>
    have h := Translation.retarget_mirrors (T := T.toTranslation) (g := g) (X.record edge)
      (X.record source) (X.record target)
    rw [← T.record_eq, key_record, key_record] at h
    exact h.answer fun _ => T.done.symm
  | setLabel edge label =>
    have h := Translation.reviseEdge_mirrors (T := T.toTranslation) (g := g) (X.record edge)
      (fun r => { r with label }) (fun r => { r with label })
      fun r => by simp only [T.data_eq]
    rw [← T.record_eq] at h
    exact h.answer fun _ => T.done.symm
  | clear =>
    have h := Translation.clear_mirrors (T := T.toTranslation) (g := g)
    show EStateM.Result.ok _ _ = EStateM.Result.ok _ _
    rw [h, T.done]

def entry : Except Rejection Reply × Graph Id ν (Relation δ) →
    Except Rejection Reply × Graph Id ν' (Relation δ') :=
  entryImage T.graph T.names.rejection T.reply

private theorem perform_traced (edits : List RecordEdit) (g : Graph Id ν (Relation δ)) :
    (traced (RecordEdit.perform X) g edits).map T.entry =
      traced (RecordEdit.perform Y) (T.graph g) edits :=
  (traced_of_mirrors (I := fun _ => True) (fun edit _ g _ => T.perform_mirrors edit g)
    (fun _ _ _ _ => trivial) trivial).symm

end RecordTranslation

/-- The answer without all that is said of an attribute besides its name. -/
def Reply.outlined : Reply → Reply
  | classAttribute attr => classAttribute { name := attr.name }
  | entityAttribute column => classAttribute { name := column.name }
  | other => other

namespace ClassDiagram

variable (φ : ErRelation → ClassRelation)

def recordRules : RecordRules ClassRecord ClassRelation where
  toRules := rules
  attributes := .classAttributes
  record id := id
  relation := φ
  build isAbstract id name := ⟨id, name, isAbstract, [], []⟩
  attach attr _ name c := { c with attributes := c.attributes ++ [{ attr with name }] }
  detach index c := do
    let (attr, attributes) ← takeMember .classAttributes c.attributes index
    return (.classAttribute attr, { c with attributes })

def outlinedRules : RecordRules ClassRecord ClassRelation :=
  { recordRules φ with
    build := fun _ id name => ⟨id, name, false, [], []⟩
    attach := fun _ _ name c => { c with attributes := c.attributes ++ [{ name }] } }

/-- Forgets flags, methods, and all that is said of an attribute besides its name. -/
def outlined : RecordTranslation (recordRules φ) (outlinedRules φ) where
  names := ⟨.refl _, .refl _⟩
  key id := id
  node c := ⟨c.id, c.name, false, c.attributes.map ({ name := ·.name }), []⟩
  data r := r
  kind_eq := rfl
  nodes_eq := rfl
  edges_eq := rfl
  key_injective := Function.injective_id
  key_node _ := rfl
  name_node _ := rfl
  reference_key _ := rfl
  clash_data _ _ := rfl
  reply := Reply.outlined
  relation := id
  key_eq := rfl
  data_eq := rfl
  attributes_eq := rfl
  record_eq _ := rfl
  relation_eq _ := rfl
  prints := rfl
  build_eq _ _ _ := rfl
  attach_eq attr column name c := by
    simp [recordRules, outlinedRules]
  detach_eq index c := by
    have htake := Translation.takeMember_renamed ⟨.refl _, .refl _⟩ .classAttributes
      (fun attr => ({ name := attr.name } : ClassAttribute)) c.attributes index
    simp only [Equiv.refl_apply] at htake
    simp only [outlinedRules, recordRules, htake]
    exact outcomeImage_bind fun _ => rfl
  created _ := rfl
  removed _ := rfl
  done := rfl

end ClassDiagram

namespace EntityDiagram

def classNames : Renaming :=
  .exchange .entity .classes [(.entities, .classes), (.entityAttributes, .classAttributes),
    (.erRelationships, .classRelationships)]

def recordRules : RecordRules EntityRecord ErRelation where
  toRules := rules
  attributes := .entityAttributes
  record := classNames.record
  relation kind := kind
  build _ id name := ⟨id, name, []⟩
  attach _ column name e := { e with attributes := e.attributes ++ [{ column with name }] }
  detach index e := do
    let (attr, attributes) ← takeMember .entityAttributes e.attributes index
    return (.entityAttribute attr, { e with attributes })

/-- Reads entities as classes of which no more is known than a name and names of attributes. -/
def asClasses {φ : ErRelation → ClassRelation} (hφ : Function.Injective φ) :
    RecordTranslation recordRules (ClassDiagram.outlinedRules φ) where
  names := classNames
  key := classNames.record
  node e := ⟨classNames.record e.id, e.name, false, e.attributes.map ({ name := ·.name }), []⟩
  data r := ⟨φ r.kind, r.label⟩
  kind_eq := rfl
  nodes_eq := rfl
  edges_eq := rfl
  key_injective := classNames.record_injective
  key_node _ := rfl
  name_node _ := rfl
  reference_key _ := rfl
  clash_data r s := by
    simp [ClassDiagram.outlinedRules, ClassDiagram.recordRules, ClassDiagram.rules, recordRules,
      rules, hφ.eq_iff]
  reply answer := (classNames.reply answer).outlined
  relation := φ
  key_eq := rfl
  data_eq := rfl
  attributes_eq := rfl
  record_eq id := (Renaming.exchange_record_record _ rfl id).symm
  relation_eq _ := rfl
  prints := rfl
  build_eq _ _ _ := rfl
  attach_eq attr column name e := by
    simp [recordRules, ClassDiagram.outlinedRules]
  detach_eq index e := by
    have htake := Translation.takeMember_renamed classNames .entityAttributes
      (fun column => ({ name := column.name } : ClassAttribute)) e.attributes index
    rw [show classNames.collection .entityAttributes = .classAttributes from rfl] at htake
    simp only [ClassDiagram.outlinedRules, ClassDiagram.recordRules, recordRules, htake]
    exact outcomeImage_bind fun _ => rfl
  created _ := rfl
  removed _ := rfl
  done := rfl

end EntityDiagram

namespace RecordEdit

/-- The edit of a class diagram, with the kinds of relationship that `φ` tells. -/
def onClasses (φ : ErRelation → ClassRelation) : RecordEdit → Editing ClassDiagram Reply
  | addNode name isAbstract => ClassDiagram.apply (.addClass name isAbstract)
  | removeNode id => ClassDiagram.apply (.removeClass id)
  | addAttribute id name attr _ => ClassDiagram.apply (.addAttribute id { attr with name })
  | removeAttribute id index => ClassDiagram.apply (.removeAttribute id index)
  | addRelationship source target kind label =>
    ClassDiagram.apply (.addRelationship source target (φ kind) label)
  | removeRelationship id => ClassDiagram.apply (.removeRelationship id)
  | setKind id kind => ClassDiagram.apply (.setKind id (φ kind))
  | retarget id source target => ClassDiagram.apply (.retarget id source target)
  | setLabel id label => ClassDiagram.apply (.setLabel id label)
  | clear => do
    modify (Graph.clear ClassDiagram.rules)
    return .done

def onEntities : RecordEdit → Editing EntityDiagram Reply
  | addNode name _ => EntityDiagram.apply (.addEntity name)
  | removeNode id => EntityDiagram.apply (.removeEntity (EntityDiagram.classNames.record id))
  | addAttribute id name _ column =>
    EntityDiagram.apply
      (.addAttribute (EntityDiagram.classNames.record id) { column with name })
  | removeAttribute id index =>
    EntityDiagram.apply (.removeAttribute (EntityDiagram.classNames.record id) index)
  | addRelationship source target kind label =>
    EntityDiagram.apply
      (.addRelationship (source.map EntityDiagram.classNames.record)
        (target.map EntityDiagram.classNames.record) kind label)
  | removeRelationship id =>
    EntityDiagram.apply (.removeRelationship (EntityDiagram.classNames.record id))
  | setKind id kind => EntityDiagram.apply (.setKind (EntityDiagram.classNames.record id) kind)
  | retarget id source target =>
    EntityDiagram.apply
      (.retarget (EntityDiagram.classNames.record id) (EntityDiagram.classNames.record source)
        (EntityDiagram.classNames.record target))
  | setLabel id label => EntityDiagram.apply (.setLabel (EntityDiagram.classNames.record id) label)
  | clear => do
    modify (Graph.clear EntityDiagram.rules)
    return .done

private theorem onClasses_eq (φ : ErRelation → ClassRelation) :
    onClasses φ = perform (ClassDiagram.recordRules φ) := by
  funext edit
  cases edit with
  | addRelationship source target kind label =>
    simp [onClasses, perform, ClassDiagram.apply, ClassDiagram.recordRules]
  | addAttribute id name attr column =>
    simp [onClasses, perform, ClassDiagram.apply, ClassDiagram.recordRules]
  | _ => rfl

private theorem onEntities_eq : onEntities = perform EntityDiagram.recordRules := by
  funext edit
  cases edit with
  | addAttribute id name attr column =>
    simp [onEntities, perform, EntityDiagram.apply, EntityDiagram.recordRules]
  | _ => rfl

end RecordEdit

/-- Run side by side, classes and entities go through the same steps, as far as entities can tell.
Each step is accepted by both with corresponding answers or rejected by both for the same reason,
and leaves corresponding records, names of attributes, relationships and notices. -/
theorem entities_run_like_classes {φ : ErRelation → ClassRelation} (hφ : Function.Injective φ)
    (edits : List RecordEdit) {classes : ClassDiagram} {entities : EntityDiagram}
    (hstart : (ClassDiagram.outlined φ).graph classes =
      (EntityDiagram.asClasses hφ).graph entities) :
    (traced (RecordEdit.onClasses φ) classes edits).map (ClassDiagram.outlined φ).entry =
      (traced RecordEdit.onEntities entities edits).map (EntityDiagram.asClasses hφ).entry := by
  rw [RecordEdit.onClasses_eq, RecordEdit.onEntities_eq]
  calc (traced (RecordEdit.perform (ClassDiagram.recordRules φ)) classes edits).map
        (ClassDiagram.outlined φ).entry
      = traced (RecordEdit.perform (ClassDiagram.outlinedRules φ))
          ((ClassDiagram.outlined φ).graph classes) edits :=
        (ClassDiagram.outlined φ).perform_traced edits classes
    _ = traced (RecordEdit.perform (ClassDiagram.outlinedRules φ))
          ((EntityDiagram.asClasses hφ).graph entities) edits := by rw [hstart]
    _ = (traced (RecordEdit.perform EntityDiagram.recordRules) entities edits).map
          (EntityDiagram.asClasses hφ).entry :=
        ((EntityDiagram.asClasses hφ).perform_traced edits entities).symm

theorem entities_run_like_classes_from_one_record :
    ∃ (φ : ErRelation → ClassRelation) (hφ : Function.Injective φ),
      let classes : ClassDiagram :=
        { nodes := [⟨⟨.classes, 0⟩, "A", true, [{ name := "x", type := "int" }], [{ name := "f" }]⟩]
          issued := 1 }
      let entities : EntityDiagram :=
        { nodes := [⟨⟨.entity, 0⟩, "A", [{ name := "x", isPrimaryKey := true }]⟩], issued := 1 }
      let edits := [.addNode "B" true, .addAttribute ⟨.classes, 1⟩ " y" {} {},
        .removeAttribute ⟨.classes, 0⟩ 0, .addRelationship none none .oneToMany "has",
        .addRelationship none none .oneToMany "", .setKind ⟨.classes, 2⟩ .manyToMany,
        .removeNode ⟨.classes, 1⟩]
      (traced (RecordEdit.onClasses φ) classes edits).map (ClassDiagram.outlined φ).entry =
        (traced RecordEdit.onEntities entities edits).map (EntityDiagram.asClasses hφ).entry := by
  let φ (kind : ErRelation) : ClassRelation :=
    if kind = .oneToOne then .association
    else if kind = .oneToMany then .aggregation
    else .inheritance
  have hφ : Function.Injective φ := by
    intro a b h
    cases a <;> cases b <;> first | rfl | cases h
  exact ⟨φ, hφ, entities_run_like_classes hφ _ rfl⟩

end UmlDiagrams
