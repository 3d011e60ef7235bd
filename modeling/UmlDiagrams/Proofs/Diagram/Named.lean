import UmlDiagrams.Diagram.Flow
import UmlDiagrams.Diagram.Sequence
import UmlDiagrams.Diagram.State
import UmlDiagrams.Proofs.Graph.Translation
import UmlDiagrams.Proofs.Naming
/-!
# Diagrams of names

Sequence, state, activity and component diagrams are graphs of names, and have edits in common. Run
side by side they agree, step by step, with the bare graph that the rules of activity diagrams make.
-/

namespace UmlDiagrams

open Stateful FlowDiagram UmlDiagrams.Graph

/-- An edit that all diagrams of names have. For a new edge it tells what the edges of the different
kinds carry; an identifier is meant as one of an activity diagram. -/
inductive NamedEdit where
  | addNode (name : String)
  | removeNode (name : String)
  | addEdge (source target : Option String) (message : Message) (event : String)
  | removeEdge (id : Id)
  | clear
deriving DecidableEq, Repr

/-- Diagrams of names, read as activity diagrams. What the edges carry is forgotten. -/
def Translation.named {ε : Type} {kind : Kind} {nodes edges : Collection} (names : Renaming)
    (hkind : .activity = names.kind kind) (hnodes : .activities = names.collection nodes)
    (hedges : .activityFlows = names.collection edges) :
    Translation (Rules.byName kind nodes edges : Rules String String ε) activityRules where
  names := names
  key := id
  node := id
  data _ := ()
  kind_eq := hkind
  nodes_eq := hnodes
  edges_eq := hedges
  key_injective := Function.injective_id
  key_node _ := rfl
  name_node _ := rfl
  reference_key _ := rfl
  clash_data _ _ := rfl

def SequenceDiagram.asNamed : Translation SequenceDiagram.rules activityRules :=
  .named (.exchange .sequence .activity [(.actors, .activities), (.messages, .activityFlows)])
    rfl rfl rfl

def StateDiagram.asNamed : Translation StateDiagram.rules activityRules :=
  .named (.exchange .state .activity
    [(.states, .activities), (.stateTransitions, .activityFlows)]) rfl rfl rfl

def FlowDiagram.componentAsNamed : Translation componentRules activityRules :=
  .named (.exchange .component .activity
    [(.components, .activities), (.componentDependencies, .activityFlows)]) rfl rfl rfl

namespace NamedEdit

def perform {ε : Type} (R : Rules String String ε) (record : Id → Id)
    (data : Message → String → ε) : NamedEdit → Editing (Graph String String ε) Reply
  | addNode name => do
    let _ ← Graph.addNode R name fun _ n => n
    return .done
  | removeNode name => return .removed (← Graph.removeNode R name)
  | addEdge source target message event =>
    return .created (← Graph.addEdge R source target (data message event))
  | removeEdge id => return .removed (← Graph.removeEdge R (record id))
  | clear => do
    modify (Graph.clear R)
    return .done

def onGraph : NamedEdit → Editing FlowDiagram Reply :=
  perform activityRules id fun _ _ => ()

def onSequence : NamedEdit → Editing SequenceDiagram Reply
  | addNode name => SequenceDiagram.apply (.addActor name)
  | removeNode name => SequenceDiagram.apply (.removeActor name)
  | addEdge source target message _ =>
    SequenceDiagram.apply (.addMessage source target message.arrow message.text)
  | removeEdge id =>
    SequenceDiagram.apply (.removeMessage (SequenceDiagram.asNamed.names.record id))
  | clear => do
    modify (Graph.clear SequenceDiagram.rules)
    return .done

def onState : NamedEdit → Editing StateDiagram Reply
  | addNode name => StateDiagram.apply (.addState name)
  | removeNode name => StateDiagram.apply (.removeState name)
  | addEdge source target _ event => StateDiagram.apply (.addTransition source target event)
  | removeEdge id => StateDiagram.apply (.removeTransition (StateDiagram.asNamed.names.record id))
  | clear => do
    modify (Graph.clear StateDiagram.rules)
    return .done

def onFlow (R : Rules String String Unit) (record : Id → Id) :
    NamedEdit → Editing FlowDiagram Reply
  | addNode name => FlowDiagram.apply R (.addNode name)
  | removeNode name => FlowDiagram.apply R (.removeNode name)
  | addEdge source target _ _ => FlowDiagram.apply R (.addEdge source target)
  | removeEdge id => FlowDiagram.apply R (.removeEdge (record id))
  | clear => do
    modify (Graph.clear R)
    return .done

def onActivity : NamedEdit → Editing FlowDiagram Reply :=
  onFlow activityRules id

def onComponent : NamedEdit → Editing FlowDiagram Reply :=
  onFlow componentRules FlowDiagram.componentAsNamed.names.record

private theorem onSequence_eq :
    onSequence = perform SequenceDiagram.rules SequenceDiagram.asNamed.names.record
      fun message _ => message := by
  funext edit
  cases edit <;> rfl

private theorem onState_eq :
    onState = perform StateDiagram.rules StateDiagram.asNamed.names.record
      fun _ event => event := by
  funext edit
  cases edit <;> rfl

private theorem onFlow_eq (R : Rules String String Unit) (record : Id → Id) :
    onFlow R record = perform R record fun _ _ => () := by
  funext edit
  cases edit <;> rfl

def newName? : NamedEdit → Option String
  | addNode name => some (Text.trim name)
  | _ => none

section Step

variable {ε : Type} {kind : Kind} {nodes edges : Collection} {names : Renaming}
  {hkind : .activity = names.kind kind} {hnodes : .activities = names.collection nodes}
  {hedges : .activityFlows = names.collection edges} {data : Message → String → ε}

/-- The edit does the same to any diagram of names, if the new name is told apart from the same
nodes. -/
private theorem perform_mirrors {edit : NamedEdit} {g : Graph String String ε}
    (hrecord : ∀ id, names.record (names.record id) = id)
    (hprints : ∀ name ∈ edit.newName?, ∀ n ∈ g.nodes,
      printKey .activities n = printKey .activities name ↔ printKey nodes n = printKey nodes name) :
    (Translation.named names hkind hnodes hedges).Mirrors names.reply
      (edit.perform (.byName kind nodes edges) names.record data) edit.onGraph g := by
  cases edit with
  | addNode name =>
    refine Mirrors.answer (Translation.addNode_mirrors (fun _ _ => rfl) ?_) fun _ => rfl
    rw [show g.nodes.map (Rules.byName kind nodes edges : Rules String String ε).name = g.nodes
      from List.map_id _]
    exact hprints _ rfl
  | removeNode name => exact (Translation.removeNode_mirrors name).answer fun _ => rfl
  | addEdge source target message event =>
    have h := Translation.addEdge_mirrors (T := .named names hkind hnodes hedges) (g := g)
      source target (data message event)
    simp only [Translation.named, Option.map_id_fun, id_eq] at h
    exact h.answer fun _ => rfl
  | removeEdge id =>
    have h := Translation.removeEdge_mirrors (T := .named names hkind hnodes hedges) (g := g)
      (names.record id)
    simp only [Translation.named, hrecord] at h
    exact h.answer fun _ => rfl
  | clear =>
    have h := Translation.clear_mirrors (T := .named names hkind hnodes hedges) (g := g)
    exact congrArg (EStateM.Result.ok Reply.done) h.symm

/-- All nodes come from the start or from an edit. -/
private theorem perform_keeps {R : Rules String String ε} {record : Id → Id} {edit : NamedEdit}
    {known : List String} (hnew : ∀ name ∈ edit.newName?, name ∈ known) :
    Keeps (fun g => g.nodes ⊆ known) (edit.perform R record data) := by
  cases edit with
  | addNode name =>
    refine Keeps.answer (fun g hg => ?_) _
    rw [after, addNode_run]
    cases h : newName R.nodes (g.nodes.map R.name) name with
    | ok text =>
      obtain ⟨rfl, -, -⟩ := newName_eq_ok.mp h
      refine List.append_subset.mpr ⟨hg, ?_⟩
      simpa using hnew _ rfl
    | error e => exact hg
  | removeNode name =>
    refine Keeps.answer (fun g hg => ?_) _
    rw [after, removeNode_run]
    by_cases h : name ∈ g.keys R
    · rw [if_pos h]
      exact fun n hn => hg (List.mem_of_mem_filter hn)
    · rw [if_neg h]
      exact hg
  | addEdge source target message event =>
    refine Keeps.answer (fun g hg => ?_) _
    rw [after, addEdge_run]
    cases g.newEnds R source target (data message event) <;> exact hg
  | removeEdge id =>
    refine Keeps.answer (fun g hg => ?_) _
    rw [after, removeEdge_run]
    by_cases h : record id ∈ g.edges.map (·.id)
    · rw [if_pos h]
      exact hg
    · rw [if_neg h]
      exact hg
  | clear => exact fun g _ => List.nil_subset _

def namesIn (nodes : List String) (edits : List NamedEdit) : List String :=
  nodes ++ edits.filterMap newName?

private theorem perform_traced {edits : List NamedEdit} {g : Graph String String ε}
    (hrecord : ∀ id, names.record (names.record id) = id)
    (hprints : ∀ m ∈ namesIn g.nodes edits, ∀ n ∈ namesIn g.nodes edits,
      printKey .activities n = printKey .activities m ↔ printKey nodes n = printKey nodes m) :
    (traced (perform (.byName kind nodes edges) names.record data) g edits).map
        (entryImage (Translation.named names hkind hnodes hedges).graph names.rejection
          names.reply) =
      traced onGraph ((Translation.named names hkind hnodes hedges).graph g) edits := by
  have hnew (edit : NamedEdit) (hedit : edit ∈ edits) :
      ∀ name ∈ edit.newName?, name ∈ namesIn g.nodes edits := fun name hname =>
    List.mem_append_right _ (List.mem_filterMap.mpr ⟨edit, hedit, hname⟩)
  refine (traced_of_mirrors (I := fun g' => g'.nodes ⊆ namesIn g.nodes edits)
    (fun edit hedit g' hg' => ?_) (fun edit hedit => perform_keeps (hnew edit hedit)) ?_).symm
  · exact perform_mirrors hrecord fun name hname n hn =>
      hprints name (hnew edit hedit name hname) n (hg' hn)
  · exact List.subset_append_left _ _

end Step

end NamedEdit

open NamedEdit

private theorem printKey_components (name : String) :
    printKey .components name = (printKey .activities name).map Text.softenBracket := by
  simp [printKey]

def Translation.entry {ε : Type} {R : Rules String String ε} (T : Translation R activityRules) :
    Except Rejection Reply × Graph String String ε → Except Rejection Reply × FlowDiagram :=
  entryImage T.graph T.names.rejection T.names.reply

/-- Run side by side, the diagrams of names go through the same steps as the graph that activity
diagrams are made of. Each step is accepted by all or rejected by all for the same reason, and
leaves the same nodes, edges and notices. Component diagrams do as well, if no two of the names, as
they are stored, print alike as components but not as activities. -/
theorem named_diagrams_agree (edits : List NamedEdit) {sequence : SequenceDiagram}
    {state : StateDiagram} {activity component shared : FlowDiagram}
    (hsequence : SequenceDiagram.asNamed.graph sequence = shared)
    (hstate : StateDiagram.asNamed.graph state = shared) (hactivity : activity = shared)
    (hcomponent : FlowDiagram.componentAsNamed.graph component = shared) :
    (traced onSequence sequence edits).map SequenceDiagram.asNamed.entry =
        traced onGraph shared edits ∧
      (traced onState state edits).map StateDiagram.asNamed.entry =
        traced onGraph shared edits ∧
      traced onActivity activity edits = traced onGraph shared edits ∧
      ((∀ m ∈ namesIn shared.nodes edits, ∀ n ∈ namesIn shared.nodes edits,
          printKey .components n = printKey .components m →
            printKey .activities n = printKey .activities m) →
        (traced onComponent component edits).map FlowDiagram.componentAsNamed.entry =
          traced onGraph shared edits) := by
  refine ⟨?_, ?_, ?_, fun hprints => ?_⟩
  · subst hsequence
    rw [onSequence_eq]
    exact perform_traced (Renaming.exchange_record_record _ rfl) fun _ _ _ _ => Iff.rfl
  · subst hstate
    rw [onState_eq]
    exact perform_traced (Renaming.exchange_record_record _ rfl) fun _ _ _ _ => Iff.rfl
  · rw [hactivity, onActivity, onFlow_eq, onGraph]
  · subst hcomponent
    rw [onComponent, onFlow_eq]
    refine perform_traced (Renaming.exchange_record_record _ rfl) fun m hm n hn => ?_
    have hnodes : (FlowDiagram.componentAsNamed.graph component).nodes = component.nodes :=
      List.map_id _
    rw [hnodes] at hprints
    refine ⟨fun h => ?_, hprints m hm n hn⟩
    rw [printKey_components, printKey_components, h]

theorem named_diagrams_agree_from_scratch :
    let edits := [.addNode " A", .addNode "B", .addNode "A ",
      .addEdge none none ⟨.reply, "hi"⟩ "go", .removeEdge ⟨.activity, 2⟩,
      .addEdge none (some "C") ⟨.sync, ""⟩ "", .removeNode "A", .clear]
    (traced onSequence {} edits).map SequenceDiagram.asNamed.entry = traced onGraph {} edits ∧
      (traced onState {} edits).map StateDiagram.asNamed.entry = traced onGraph {} edits ∧
      (traced onComponent {} edits).map FlowDiagram.componentAsNamed.entry =
        traced onGraph {} edits := by
  intro edits
  have h := @named_diagrams_agree edits {} {} {} {} {} rfl rfl rfl rfl
  exact ⟨h.1, h.2.1, h.2.2.2 (by decide)⟩

end UmlDiagrams
