import UmlDiagrams.Proofs.Document.Ends
import UmlDiagrams.Proofs.Document.Listing
import UmlDiagrams.Proofs.Document.Members

namespace UmlDiagrams

open Stateful UmlDiagrams.Graph

def linkRecords {ν ε : Type} (R : Rules Id ν ε) (spec : EdgeSpec ε) :
    Editing (Graph Id ν ε) Reply :=
  return .created (← linkNamed R spec)

private theorem relationships_of_edgeSpecs {κ ν α : Type} [DecidableEq κ]
    {R : Rules κ ν (Relation α)} {g : Graph κ ν (Relation α)} {names : List String}
    {specs : List (RelationSpec α)}
    (h : g.edgeSpecs R = (specs.map (·.edge)).map (·.completed names)) :
    (g.edges.map fun e => (⟨g.endName R e.source, g.endName R e.target, e.data.kind,
        e.data.label⟩ : RelationSpec α)) =
      specs.map fun r =>
        { r with source := r.source.or names[0]?, target := r.target.or names[1]? } := by
  have hspecs := congrArg
    (List.map fun e => (⟨e.source, e.target, e.data.kind, e.data.label⟩ : RelationSpec α)) h
  rw [edgeSpecs, List.map_map, List.map_map, List.map_map] at hspecs
  exact hspecs

namespace ClassDiagram

def withAttribute (name : String) (a : ClassAttribute) (c : ClassRecord) : ClassRecord :=
  { c with attributes := c.attributes ++ [{ a with name }] }

def withMethod (name : String) (m : ClassMethod) (c : ClassRecord) : ClassRecord :=
  { c with methods := c.methods ++ [{ m with name }] }

theorem apply_addAttribute (id : Id) (a : ClassAttribute) :
    apply (.addAttribute id a) = addMember rules .classAttributes (·.name) withAttribute id a := by
  simp only [apply, addMember, withAttribute]

theorem apply_addMethod (id : Id) (m : ClassMethod) :
    apply (.addMethod id m) = addMember rules .classMethods (·.name) withMethod id m := by
  simp only [apply, addMember, withMethod]

def addLastAttribute : ClassAttribute → Editing ClassDiagram Reply :=
  addLast rules .classAttributes (·.name) withAttribute

def addLastMethod : ClassMethod → Editing ClassDiagram Reply :=
  addLast rules .classMethods (·.name) withMethod

def addListed (c : ClassSpec) : List (Editing ClassDiagram Reply) :=
  apply (.addClass c.name c.isAbstract) ::
    (c.attributes.map addLastAttribute ++ c.methods.map addLastMethod)

private theorem addLastAttribute_grows :
    Grows rules ClassRecord.Named addLastAttribute
      (fun c a => withAttribute (Text.trim a.name) a c) fun a => Text.trim a.name ≠ "" :=
  addLast_grows (fun _ _ _ => rfl) fun id a => apply_addAttribute id a ▸ apply_keeps _

private theorem addLastMethod_grows :
    Grows rules ClassRecord.Named addLastMethod
      (fun c m => withMethod (Text.trim m.name) m c) fun m => Text.trim m.name ≠ "" :=
  addLast_grows (fun _ _ _ => rfl) fun id m => apply_addMethod id m ▸ apply_keeps _

private theorem foldl_attributes (c : ClassRecord) (attributes : List ClassAttribute) :
    attributes.foldl (fun c a => withAttribute (Text.trim a.name) a c) c =
      { c with attributes := c.attributes ++ attributes.map ClassAttribute.trimmed } := by
  induction attributes generalizing c with
  | nil => simp
  | cons a attributes ih =>
    rw [List.foldl_cons, ih]
    simp [withAttribute, ClassAttribute.trimmed]

private theorem foldl_methods (c : ClassRecord) (methods : List ClassMethod) :
    methods.foldl (fun c m => withMethod (Text.trim m.name) m c) c =
      { c with methods := c.methods ++ methods.map ClassMethod.trimmed } := by
  induction methods generalizing c with
  | nil => simp
  | cons m methods ih =>
    rw [List.foldl_cons, ih]
    simp [withMethod, ClassMethod.trimmed]

private theorem addsNode_listed :
    AddsNode rules ClassRecord.Named addListed ClassRecord.listed ClassSpec.trimmed (·.name)
      ClassSpec.MembersNamed := by
  intro d hd c
  have hclass := (addNode_decides hd (rules_builds c.isAbstract) c.name).answer Reply.created
  refine hclass.cons fun d₁ _ hadded => ?_
  obtain ⟨hsound, hedges, hnodes⟩ := hadded
  have hmembers : Decides (inOrder (c.attributes.map addLastAttribute ++
        c.methods.map addLastMethod)) d₁
      ((∀ a ∈ c.attributes, Text.trim a.name ≠ "") ∧ ∀ m ∈ c.methods, Text.trim m.name ≠ "")
      (fun d₃ => Sound rules ClassRecord.Named d₃ ∧ d₃.edges = d.edges ∧
        d₃.nodes.map ClassRecord.listed = d.nodes.map ClassRecord.listed ++ [c.trimmed])
      fun _ => True := by
    refine (grow_decides addLastAttribute_grows hsound hnodes c.attributes).append
      fun d₂ _ hgrown => ?_
    obtain ⟨hsound, hedges', hnodes⟩ := hgrown
    rw [foldl_attributes] at hnodes
    have hmethods := grow_decides addLastMethod_grows hsound hnodes c.methods
    refine hmethods.imp Iff.rfl (fun d₃ _ h => ?_) fun _ _ h => h
    rw [foldl_methods] at h
    refine ⟨h.1, h.2.1.trans (hedges'.trans hedges), ?_⟩
    rw [h.2.2, List.map_append]
    rfl
  refine hmembers.imp ?_ (fun _ _ h => h) fun _ _ h => h
  exact ⟨fun h => ⟨h.1, h.2⟩, fun h => ⟨h.attributes, h.methods⟩⟩

theorem listed_decides (c : ClassSection) :
    Decides (inOrder (c.classes.flatMap addListed ++
        c.relationships.map fun r => linkRecords rules r.edge)) ({} : ClassDiagram)
      ((rules.Fits c.names (c.relationships.map (·.edge)) ∧ ∀ s ∈ c.classes, s.MembersNamed) ∧
        EnoughNodes c.names c.relationships)
      (fun d => Sound rules ClassRecord.Named d ∧ d.listed = c.completed)
      fun e => rules.Fits c.names (c.relationships.map (·.edge)) →
        (∀ s ∈ c.classes, s.MembersNamed) →
        LacksNodes .classes c.names c.relationships e := by
  have hnames : (c.classes.map ClassSpec.trimmed).map (·.name) = c.names := by
    rw [List.map_map]
    rfl
  have hlinks : Links rules ClassRecord.Named (fun r : RelationSpec ClassRelation =>
      linkRecords rules r.edge) RelationSpec.edge :=
    (links_named RelationSpec.edge).answer Reply.created
  have hlisted := Graph.listed_decides addsNode_listed hlinks (fun _ => rfl) c.classes
    c.relationships hnames
  refine hlisted.imp Iff.rfl (fun d _ h => ?_) fun _ _ h => h
  obtain ⟨hsound, hclasses, hedges⟩ := h
  refine ⟨hsound, ?_⟩
  rw [ClassDiagram.listed, hclasses, relationships_of_edgeSpecs hedges]
  rfl

end ClassDiagram

namespace EntityDiagram

def withAttribute (name : String) (a : EntityAttribute) (e : EntityRecord) : EntityRecord :=
  { e with attributes := e.attributes ++ [{ a with name }] }

theorem apply_addAttribute (id : Id) (a : EntityAttribute) :
    apply (.addAttribute id a) = addMember rules .entityAttributes (·.name) withAttribute id a := by
  simp only [apply, addMember, withAttribute]

def addLastAttribute : EntityAttribute → Editing EntityDiagram Reply :=
  addLast rules .entityAttributes (·.name) withAttribute

def addListed (e : EntitySpec) : List (Editing EntityDiagram Reply) :=
  apply (.addEntity e.name) :: e.attributes.map addLastAttribute

private theorem addLastAttribute_grows :
    Grows rules EntityRecord.Named addLastAttribute
      (fun e a => withAttribute (Text.trim a.name) a e) fun a => Text.trim a.name ≠ "" :=
  addLast_grows (fun _ _ _ => rfl) fun id a => apply_addAttribute id a ▸ apply_keeps _

private theorem foldl_attributes (e : EntityRecord) (attributes : List EntityAttribute) :
    attributes.foldl (fun e a => withAttribute (Text.trim a.name) a e) e =
      { e with attributes := e.attributes ++ attributes.map EntityAttribute.trimmed } := by
  induction attributes generalizing e with
  | nil => simp
  | cons a attributes ih =>
    rw [List.foldl_cons, ih]
    simp [withAttribute, EntityAttribute.trimmed]

private theorem addsNode_listed :
    AddsNode rules EntityRecord.Named addListed EntityRecord.listed EntitySpec.trimmed (·.name)
      EntitySpec.MembersNamed := by
  intro d hd e
  have hentity := (addNode_decides hd rules_builds e.name).answer Reply.created
  refine hentity.cons fun d₁ _ hadded => ?_
  obtain ⟨hsound, hedges, hnodes⟩ := hadded
  have hattributes := grow_decides addLastAttribute_grows hsound hnodes e.attributes
  refine hattributes.imp Iff.rfl (fun d₂ _ h => ?_) fun _ _ h => h
  rw [foldl_attributes] at h
  refine ⟨h.1, h.2.1.trans hedges, ?_⟩
  rw [h.2.2, List.map_append]
  rfl

theorem listed_decides (c : EntitySection) :
    Decides (inOrder (c.entities.flatMap addListed ++
        c.relationships.map fun r => linkRecords rules r.edge)) ({} : EntityDiagram)
      ((rules.Fits c.names (c.relationships.map (·.edge)) ∧ ∀ s ∈ c.entities, s.MembersNamed) ∧
        EnoughNodes c.names c.relationships)
      (fun d => Sound rules EntityRecord.Named d ∧ d.listed = c.completed)
      fun e => rules.Fits c.names (c.relationships.map (·.edge)) →
        (∀ s ∈ c.entities, s.MembersNamed) →
        LacksNodes .entities c.names c.relationships e := by
  have hnames : (c.entities.map EntitySpec.trimmed).map (·.name) = c.names := by
    rw [List.map_map]
    rfl
  have hlinks : Links rules EntityRecord.Named (fun r : RelationSpec ErRelation =>
      linkRecords rules r.edge) RelationSpec.edge :=
    (links_named RelationSpec.edge).answer Reply.created
  have hlisted := Graph.listed_decides addsNode_listed hlinks (fun _ => rfl) c.entities
    c.relationships hnames
  refine hlisted.imp Iff.rfl (fun d _ h => ?_) fun _ _ h => h
  obtain ⟨hsound, hentities, hedges⟩ := h
  refine ⟨hsound, ?_⟩
  rw [EntityDiagram.listed, hentities, relationships_of_edgeSpecs hedges]
  rfl

end EntityDiagram

end UmlDiagrams
