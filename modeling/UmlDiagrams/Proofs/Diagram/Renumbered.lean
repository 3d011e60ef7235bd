import UmlDiagrams.Diagram.Class
import UmlDiagrams.Diagram.Entity
import UmlDiagrams.Diagram.Flow
import UmlDiagrams.Diagram.Sequence
import UmlDiagrams.Diagram.State
import UmlDiagrams.Proofs.Graph.Likeness
/-!
# Renumbered diagrams

A diagram does not care which identifiers its records have, nor which notices are pending. Two
diagrams that differ in nothing else answer the same edits alike, if each edit names the records of
its own diagram, and stay alike.
-/

namespace UmlDiagrams

open Stateful UmlDiagrams.Graph

variable {f : Id → Id} (hf : Function.Injective f)

def SequenceEdit.renumbered (f : Id → Id) : SequenceEdit → SequenceEdit
  | .removeMessage id => .removeMessage (f id)
  | .retarget id source target => .retarget (f id) source target
  | .setArrow id arrow => .setArrow (f id) arrow
  | .setText id text => .setText (f id) text
  | edit => edit

def ClassEdit.renumbered (f : Id → Id) : ClassEdit → ClassEdit
  | .addClass name isAbstract => .addClass name isAbstract
  | .removeClass id => .removeClass (f id)
  | .setAbstract id isAbstract => .setAbstract (f id) isAbstract
  | .addAttribute id attr => .addAttribute (f id) attr
  | .removeAttribute id index => .removeAttribute (f id) index
  | .addMethod id method => .addMethod (f id) method
  | .removeMethod id index => .removeMethod (f id) index
  | .addRelationship source target kind label =>
    .addRelationship (source.map f) (target.map f) kind label
  | .removeRelationship id => .removeRelationship (f id)
  | .setKind id kind => .setKind (f id) kind
  | .retarget id source target => .retarget (f id) (f source) (f target)
  | .setLabel id label => .setLabel (f id) label

def EntityEdit.renumbered (f : Id → Id) : EntityEdit → EntityEdit
  | .addEntity name => .addEntity name
  | .removeEntity id => .removeEntity (f id)
  | .addAttribute id attr => .addAttribute (f id) attr
  | .removeAttribute id index => .removeAttribute (f id) index
  | .addRelationship source target kind label =>
    .addRelationship (source.map f) (target.map f) kind label
  | .removeRelationship id => .removeRelationship (f id)
  | .setKind id kind => .setKind (f id) kind
  | .retarget id source target => .retarget (f id) (f source) (f target)
  | .setLabel id label => .setLabel (f id) label

def FlowEdit.renumbered (f : Id → Id) : FlowEdit → FlowEdit
  | .removeEdge id => .removeEdge (f id)
  | edit => edit

def StateEdit.renumbered (f : Id → Id) : StateEdit → StateEdit
  | .removeTransition id => .removeTransition (f id)
  | .setEvent id event => .setEvent (f id) event
  | edit => edit

namespace Likeness

def renumberedNames {ε : Type} (kind : Kind) (nodes edges : Collection) :
    Likeness (Rules.byName kind nodes edges : Rules String String ε)
      (Rules.byName kind nodes edges : Rules String String ε) where
  labels := .ofRecords f
  key n := n
  node n := n
  data d := d
  Noted _ _ := True
  nodes_eq := rfl
  edges_eq := rfl
  record_injective := hf
  key_injective _ _ h := h
  key_node _ := rfl
  name_node _ := rfl
  reference_key _ := rfl
  clash_data _ _ := rfl
  noted _ _ _ _ := trivial

def renumberedRecords {ν ε : Type} {R : Rules Id ν ε} (node : ν → ν)
    (hkey : ∀ n, R.key (node n) = f (R.key n)) (hname : ∀ n, R.name (node n) = R.name n)
    (hreference : R.reference = .id) : Likeness R R where
  labels := .ofRecords f
  key := f
  node := node
  data d := d
  Noted _ _ := True
  nodes_eq := rfl
  edges_eq := rfl
  record_injective := hf
  key_injective := hf
  key_node := hkey
  name_node := hname
  reference_key k := by rw [hreference]; rfl
  clash_data _ _ := rfl
  noted _ _ _ _ := trivial

section Names

variable {ε : Type} {kind : Kind} {nodes edges : Collection} {g g' : Graph String String ε}

private theorem addName_simulates (h : (renumberedNames hf kind nodes edges).Alike g g')
    (name : String) :
    (renumberedNames hf kind nodes edges).Simulates f
      (addNode (.byName kind nodes edges) name fun _ n => n)
      (addNode (.byName kind nodes edges) name fun _ n => n) g g' :=
  addNode_simulates h (fun _ _ => rfl) fun _ _ => Iff.rfl

private theorem joinNames_simulates (h : (renumberedNames hf kind nodes edges).Alike g g')
    (source target : Option String) (data : ε) :
    (renumberedNames hf kind nodes edges).Simulates f
      (addEdge (.byName kind nodes edges) source target data)
      (addEdge (.byName kind nodes edges) source target data) g g' := by
  have hadd := addEdge_simulates h source target data
  simp only [renumberedNames, Option.map_id_fun'] at hadd
  exact hadd

end Names

end Likeness

namespace SequenceDiagram

def renumbering : Likeness rules rules :=
  .renumberedNames hf .sequence .actors .messages

theorem apply_simulates {d d' : SequenceDiagram} (h : (renumbering hf).Alike d d')
    (edit : SequenceEdit) :
    (renumbering hf).Simulates (Relabeling.ofRecords f).reply (apply edit)
      (apply (edit.renumbered f)) d d' := by
  cases edit with
  | addActor name => exact (Likeness.addName_simulates hf h name).answer fun _ => rfl
  | removeActor name => exact (Likeness.removeNode_simulates h name).answer fun _ => rfl
  | addMessage source target arrow text =>
    exact (Likeness.joinNames_simulates hf h source target ⟨arrow, text⟩).answer fun _ => rfl
  | removeMessage id => exact (Likeness.removeEdge_simulates h id).answer fun _ => rfl
  | retarget id source target =>
    exact (Likeness.retarget_simulates h id source target).answer fun _ => rfl
  | setArrow id arrow =>
    refine Simulates.answer (Likeness.reviseEdge_simulates h id ?_) fun _ => rfl
    exact fun _ => rfl
  | setText id text =>
    refine Simulates.answer (Likeness.reviseEdge_simulates h id ?_) fun _ => rfl
    exact fun _ => rfl

end SequenceDiagram

namespace StateDiagram

def renumbering : Likeness rules rules :=
  .renumberedNames hf .state .states .stateTransitions

theorem apply_simulates {d d' : StateDiagram} (h : (renumbering hf).Alike d d')
    (edit : StateEdit) :
    (renumbering hf).Simulates (Relabeling.ofRecords f).reply (apply edit)
      (apply (edit.renumbered f)) d d' := by
  cases edit with
  | addState name => exact (Likeness.addName_simulates hf h name).answer fun _ => rfl
  | removeState name => exact (Likeness.removeNode_simulates h name).answer fun _ => rfl
  | addTransition source target event =>
    exact (Likeness.joinNames_simulates hf h source target event).answer fun _ => rfl
  | removeTransition id => exact (Likeness.removeEdge_simulates h id).answer fun _ => rfl
  | setEvent id event =>
    refine Simulates.answer (Likeness.reviseEdge_simulates h id ?_) fun _ => rfl
    exact fun _ => rfl

end StateDiagram

namespace FlowDiagram

theorem apply_simulates {kind : Kind} {nodes edges : Collection} {d d' : FlowDiagram}
    (h : (Likeness.renumberedNames hf kind nodes edges).Alike d d') (edit : FlowEdit) :
    (Likeness.renumberedNames hf kind nodes edges).Simulates (Relabeling.ofRecords f).reply
      (apply (.byName kind nodes edges) edit) (apply (.byName kind nodes edges) (edit.renumbered f))
      d d' := by
  cases edit with
  | addNode name => exact (Likeness.addName_simulates hf h name).answer fun _ => rfl
  | removeNode name => exact (Likeness.removeNode_simulates h name).answer fun _ => rfl
  | addEdge source target =>
    exact (Likeness.joinNames_simulates hf h source target ()).answer fun _ => rfl
  | removeEdge id => exact (Likeness.removeEdge_simulates h id).answer fun _ => rfl

end FlowDiagram

namespace ClassDiagram

def renumbering : Likeness rules rules :=
  .renumberedRecords hf (fun c => { c with id := f c.id }) (fun _ => rfl) (fun _ => rfl) rfl

theorem apply_simulates {d d' : ClassDiagram} (h : (renumbering hf).Alike d d')
    (edit : ClassEdit) :
    (renumbering hf).Simulates (Relabeling.ofRecords f).reply (apply edit)
      (apply (edit.renumbered f)) d d' := by
  cases edit with
  | addClass name isAbstract =>
    refine Simulates.answer (Likeness.addNode_simulates h ?_ ?_) fun _ => rfl
    · exact fun _ _ => rfl
    · exact fun _ _ => Iff.rfl
  | removeClass id => exact (Likeness.removeNode_simulates h id).answer fun _ => rfl
  | setAbstract id isAbstract =>
    exact Likeness.reviseNode_simulates h rfl id .classes fun _ => rfl
  | addAttribute id attr =>
    have hname := Relabeling.fixes_memberName f .classAttributes attr.name
    rw [ClassEdit.renumbered, apply, apply]
    -- Without a name for it, the check would be evaluated to compare the two computations.
    generalize memberName .classAttributes attr.name = check at hname ⊢
    refine Simulates.check h hname fun name => ?_
    exact Likeness.reviseNode_simulates h rfl id .classAttributes fun _ => rfl
  | removeAttribute id index =>
    refine Likeness.reviseNode_simulates h rfl id .classAttributes fun c => ?_
    have hmembers : ((renumbering hf).node c).attributes = c.attributes := rfl
    simp only [takeMember, hmembers]
    cases c.attributes[index]? <;> rfl
  | addMethod id method =>
    have hname := Relabeling.fixes_memberName f .classMethods method.name
    rw [ClassEdit.renumbered, apply, apply]
    generalize memberName .classMethods method.name = check at hname ⊢
    refine Simulates.check h hname fun name => ?_
    exact Likeness.reviseNode_simulates h rfl id .classMethods fun _ => rfl
  | removeMethod id index =>
    refine Likeness.reviseNode_simulates h rfl id .classMethods fun c => ?_
    have hmembers : ((renumbering hf).node c).methods = c.methods := rfl
    simp only [takeMember, hmembers]
    cases c.methods[index]? <;> rfl
  | addRelationship source target kind label =>
    exact (Likeness.addEdge_simulates h source target ⟨kind, label⟩).answer fun _ => rfl
  | removeRelationship id => exact (Likeness.removeEdge_simulates h id).answer fun _ => rfl
  | setKind id kind =>
    refine Simulates.answer (Likeness.retypeEdge_simulates h id ?_) fun _ => rfl
    exact fun _ => rfl
  | retarget id source target =>
    exact (Likeness.retarget_simulates h id source target).answer fun _ => rfl
  | setLabel id label =>
    refine Simulates.answer (Likeness.reviseEdge_simulates h id ?_) fun _ => rfl
    exact fun _ => rfl

end ClassDiagram

namespace EntityDiagram

def renumbering : Likeness rules rules :=
  .renumberedRecords hf (fun e => { e with id := f e.id }) (fun _ => rfl) (fun _ => rfl) rfl

theorem apply_simulates {d d' : EntityDiagram} (h : (renumbering hf).Alike d d')
    (edit : EntityEdit) :
    (renumbering hf).Simulates (Relabeling.ofRecords f).reply (apply edit)
      (apply (edit.renumbered f)) d d' := by
  cases edit with
  | addEntity name =>
    refine Simulates.answer (Likeness.addNode_simulates h ?_ ?_) fun _ => rfl
    · exact fun _ _ => rfl
    · exact fun _ _ => Iff.rfl
  | removeEntity id => exact (Likeness.removeNode_simulates h id).answer fun _ => rfl
  | addAttribute id attr =>
    have hname := Relabeling.fixes_memberName f .entityAttributes attr.name
    rw [EntityEdit.renumbered, apply, apply]
    generalize memberName .entityAttributes attr.name = check at hname ⊢
    refine Simulates.check h hname fun name => ?_
    exact Likeness.reviseNode_simulates h rfl id .entityAttributes fun _ => rfl
  | removeAttribute id index =>
    refine Likeness.reviseNode_simulates h rfl id .entityAttributes fun e => ?_
    have hmembers : ((renumbering hf).node e).attributes = e.attributes := rfl
    simp only [takeMember, hmembers]
    cases e.attributes[index]? <;> rfl
  | addRelationship source target kind label =>
    exact (Likeness.addEdge_simulates h source target ⟨kind, label⟩).answer fun _ => rfl
  | removeRelationship id => exact (Likeness.removeEdge_simulates h id).answer fun _ => rfl
  | setKind id kind =>
    refine Simulates.answer (Likeness.retypeEdge_simulates h id ?_) fun _ => rfl
    exact fun _ => rfl
  | retarget id source target =>
    exact (Likeness.retarget_simulates h id source target).answer fun _ => rfl
  | setLabel id label =>
    refine Simulates.answer (Likeness.reviseEdge_simulates h id ?_) fun _ => rfl
    exact fun _ => rfl

end EntityDiagram

end UmlDiagrams
