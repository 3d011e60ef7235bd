import UmlDiagrams.Proofs.Diagram.Renumbered
import UmlDiagrams.Proofs.Store.Isolation
import UmlDiagrams.Proofs.UseCase.Renumbered
/-!
# Stores with renumbered diagrams

Two stores with the same active kind and style, and with diagrams of one kind that differ in nothing
but identifiers and notices, cannot be told apart by edits of these diagrams, nor by their sources.
-/

namespace UmlDiagrams

open Stateful UmlDiagrams.Graph

variable {f : Id → Id} (hf : Function.Injective f)

def Edit.renumbered (f : Id → Id) : Edit → Edit
  | .sequence edit => .sequence (edit.renumbered f)
  | .classes edit => .classes (edit.renumbered f)
  | .useCase edit => .useCase (edit.renumbered f)
  | .entity edit => .entity (edit.renumbered f)
  | .activity edit => .activity (edit.renumbered f)
  | .component edit => .component (edit.renumbered f)
  | .state edit => .state (edit.renumbered f)
  | .style edit => .style edit
  | .setKind kind => .setKind kind
  | .clear => .clear

def Operation.renumbered (f : Id → Id) : Operation → Operation
  | .edit e => .edit (e.renumbered f)
  | .takeChanges => .takeChanges

@[simp] theorem Edit.address_renumbered (active : Kind) (edit : Edit) :
    (edit.renumbered f).address active = edit.address active := by
  cases edit <;> rfl

@[simp] theorem Edit.activeAfter_renumbered (active : Kind) (edit : Edit) :
    (edit.renumbered f).activeAfter active = edit.activeAfter active := by
  cases edit <;> rfl

private theorem SequenceDiagram.body_alike {d d' : SequenceDiagram}
    (h : (renumbering hf).Alike d d') :
    d'.body = d.body := by
  simp [body, h.nodes, h.edges, renumbering, Likeness.renumberedNames, Likeness.edge,
    Function.comp_def]

private theorem StateDiagram.body_alike {d d' : StateDiagram} (h : (renumbering hf).Alike d d') :
    d'.body = d.body := by
  simp [body, h.nodes, h.edges, renumbering, Likeness.renumberedNames, Likeness.edge,
    Function.comp_def]

private theorem FlowDiagram.body_alike {kind : Kind} {nodes edges : Collection} {d d' : FlowDiagram}
    (h : (Likeness.renumberedNames hf kind nodes edges).Alike d d') (word : String)
    (print : String → String) : d'.body word print = d.body word print := by
  simp [body, h.nodes, h.edges, Likeness.renumberedNames, Likeness.edge, Function.comp_def]

section Records

variable {ν ε : Type} {R : Rules Id ν ε} {node : ν → ν} {hkey : ∀ n, R.key (node n) = f (R.key n)}
  {hname : ∀ n, R.name (node n) = R.name n} {hreference : R.reference = .id} {g g' : Graph Id ν ε}

/-- The ends of an edge are found under their other identifiers, and have their names. -/
private theorem recordEdgeLine?_alike
    (h : (Likeness.renumberedRecords hf node hkey hname hreference).Alike g g')
    (symbol label : ε → String) (e : Edge Id ε) :
    recordEdgeLine? R g' symbol label ⟨f e.id, f e.source, f e.target, e.data⟩ =
      recordEdgeLine? R g symbol label e := by
  have hsource := h.findNode? e.source
  have htarget := h.findNode? e.target
  simp only [Likeness.renumberedRecords] at hsource htarget
  simp only [recordEdgeLine?, hsource, htarget]
  cases g.findNode? R e.source <;> cases g.findNode? R e.target <;> simp [hname]

private theorem recordBody_alike
    (h : (Likeness.renumberedRecords hf node hkey hname hreference).Alike g g')
    {block : ν → List String} (hblock : ∀ n, block (node n) = block n) (symbol label : ε → String) :
    ({ blocks := g'.nodes.map block
       edges := g'.edges.filterMap (recordEdgeLine? R g' symbol label) } : Body) =
      { blocks := g.nodes.map block
        edges := g.edges.filterMap (recordEdgeLine? R g symbol label) } := by
  have hedges : g'.edges.filterMap (recordEdgeLine? R g' symbol label) =
      g.edges.filterMap (recordEdgeLine? R g symbol label) := by
    rw [h.edges, List.filterMap_map]
    exact List.filterMap_congr fun e _ => recordEdgeLine?_alike hf h symbol label e
  rw [hedges, h.nodes, List.map_map]
  exact congrArg (Body.mk [] · _) (List.map_congr_left fun n _ => hblock n)

end Records

private theorem ClassDiagram.body_alike {d d' : ClassDiagram} (h : (renumbering hf).Alike d d') :
    d'.body = d.body :=
  recordBody_alike hf h (fun _ => rfl) _ _

private theorem EntityDiagram.body_alike {d d' : EntityDiagram} (h : (renumbering hf).Alike d d') :
    d'.body = d.body :=
  recordBody_alike hf h (fun _ => rfl) _ _

private theorem UseCaseDiagram.body_alike {d d' : UseCaseDiagram} (h : Alike f d d')
    (direction : Direction) : d'.body direction = d.body direction := by
  simp [body, h.actors, h.useCases, h.links, Function.comp_def]

/-- Diagrams of a kind that differ in nothing but identifiers and notices. -/
def Kind.Alike (hf : Function.Injective f) : (kind : Kind) → kind.Diagram → kind.Diagram → Prop
  | .sequence => (SequenceDiagram.renumbering hf).Alike
  | .classes => (ClassDiagram.renumbering hf).Alike
  | .useCase => UseCaseDiagram.Alike f
  | .entity => (EntityDiagram.renumbering hf).Alike
  | .activity => (Likeness.renumberedNames hf .activity .activities .activityFlows).Alike
  | .component => (Likeness.renumberedNames hf .component .components .componentDependencies).Alike
  | .state => (StateDiagram.renumbering hf).Alike

namespace Store

/-- The stores have the same active kind and style, and their diagrams of `kind` differ in nothing
but identifiers and notices. -/
structure AlikeAt (hf : Function.Injective f) (kind : Kind) (s t : Store) : Prop where
  active : t.kind = s.kind
  style : t.style = s.style
  diagram : kind.Alike hf (s.diagram kind) (t.diagram kind)

variable {hf} {kind : Kind} {s t : Store}

private theorem AlikeAt.clear (h : AlikeAt hf kind s t) (hactive : s.kind = kind) :
    AlikeAt hf kind s.clear t.clear := by
  refine ⟨?_, ?_, ?_⟩
  · rw [clear_kind, clear_kind, h.active]
  · rw [clear_style, clear_style, h.style]
  · rw [Store.clear, Store.clear, h.active, hactive]
    cases kind with
    | useCase => exact UseCaseDiagram.Alike.clear h.diagram
    | _ => exact Likeness.Alike.clear h.diagram

/-- What an edit of the diagrams does in one store, it does in the other. -/
theorem apply_simulates (h : AlikeAt hf kind s t) {edit : Edit}
    (haddress : edit.address s.kind = some kind) :
    Simulates (AlikeAt hf kind) (Relabeling.ofRecords f).rejection (Relabeling.ofRecords f).reply
      (apply edit) (apply (edit.renumbered f)) s t := by
  cases edit with
  | style edit => cases haddress
  | setKind target => cases haddress
  | clear =>
    exact .ok Reply.done (h.clear (Option.some.inj haddress))
  | sequence edit =>
    cases Option.some.inj haddress
    refine Simulates.within ?_ fun _ _ hd => ⟨h.active, h.style, hd⟩
    exact SequenceDiagram.apply_simulates hf h.diagram edit
  | classes edit =>
    cases Option.some.inj haddress
    refine Simulates.within ?_ fun _ _ hd => ⟨h.active, h.style, hd⟩
    exact ClassDiagram.apply_simulates hf h.diagram edit
  | useCase edit =>
    cases Option.some.inj haddress
    refine Simulates.within ?_ fun _ _ hd => ⟨h.active, h.style, hd⟩
    exact UseCaseDiagram.apply_simulates hf h.diagram edit
  | entity edit =>
    cases Option.some.inj haddress
    refine Simulates.within ?_ fun _ _ hd => ⟨h.active, h.style, hd⟩
    exact EntityDiagram.apply_simulates hf h.diagram edit
  | activity edit =>
    cases Option.some.inj haddress
    refine Simulates.within ?_ fun _ _ hd => ⟨h.active, h.style, hd⟩
    exact FlowDiagram.apply_simulates hf h.diagram edit
  | component edit =>
    cases Option.some.inj haddress
    refine Simulates.within ?_ fun _ _ hd => ⟨h.active, h.style, hd⟩
    exact FlowDiagram.apply_simulates hf h.diagram edit
  | state edit =>
    cases Option.some.inj haddress
    refine Simulates.within ?_ fun _ _ hd => ⟨h.active, h.style, hd⟩
    exact StateDiagram.apply_simulates hf h.diagram edit

private theorem after_renumbered_style (hstyle : t.style = s.style) (edit : Edit) :
    ((apply (edit.renumbered f)).after t).style = ((apply edit).after s).style := by
  cases edit with
  | style edit =>
    rw [Edit.renumbered, after, after, style_run, style_run, hstyle]
    cases edit.revised s.style with
    | ok style => rfl
    | error e => exact hstyle
  | _ => rw [(after_style_of_not_isStyle rfl).1, (after_style_of_not_isStyle rfl).1, hstyle]

private theorem AlikeAt.after (h : AlikeAt hf kind s t) (edit : Edit) :
    AlikeAt hf kind ((apply edit).after s) ((apply (edit.renumbered f)).after t) := by
  by_cases haddress : edit.address s.kind = some kind
  · exact (apply_simulates h haddress).related
  · refine ⟨?_, after_renumbered_style h.style edit, ?_⟩
    · rw [after_kind, after_kind, h.active, Edit.activeAfter_renumbered]
    · rw [after_diagram_of_ne haddress, after_diagram_of_ne]
      · exact h.diagram
      · rw [h.active, Edit.address_renumbered]
        exact haddress

private theorem AlikeAt.takeChanges (h : AlikeAt hf kind s t) :
    AlikeAt hf kind s.takeChanges.2 t.takeChanges.2 := by
  obtain ⟨hactive, hstyle, hdiagram⟩ := h
  refine ⟨hactive, hstyle, ?_⟩
  cases kind with
  | useCase => exact { hdiagram with }
  | _ => exact { hdiagram with changes := trivial }

/-- Whatever is tried on the two stores, they stay alike. -/
theorem AlikeAt.run (h : AlikeAt hf kind s t) (operations : List Operation) :
    AlikeAt hf kind (s.run operations) (t.run (operations.map (·.renumbered f))) := by
  induction operations generalizing s t with
  | nil => exact h
  | cons operation operations ih =>
    cases operation with
    | edit edit => exact ih (h.after edit)
    | takeChanges => exact ih h.takeChanges

private theorem AlikeAt.body (h : AlikeAt hf kind s t) : t.body kind = s.body kind := by
  cases kind with
  | sequence => exact SequenceDiagram.body_alike hf h.diagram
  | classes => exact ClassDiagram.body_alike hf h.diagram
  | useCase =>
    rw [Store.body, Store.body, h.style]
    exact UseCaseDiagram.body_alike h.diagram _
  | entity => exact EntityDiagram.body_alike hf h.diagram
  | activity => exact FlowDiagram.body_alike hf h.diagram _ _
  | component => exact FlowDiagram.body_alike hf h.diagram _ _
  | state => exact StateDiagram.body_alike hf h.diagram

theorem AlikeAt.source (h : AlikeAt hf kind s t) :
    (t.setKind kind).source = (s.setKind kind).source := by
  have hbody (u : Store) : (u.setKind kind).body kind = u.body kind :=
    body_congr (setKind_diagram kind) setKind_style
  simp only [Store.source, sourceLines, setKind_kind, setKind_style, hbody, h.body, h.style]

end Store

end UmlDiagrams
