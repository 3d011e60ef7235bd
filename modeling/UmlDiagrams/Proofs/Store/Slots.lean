import UmlDiagrams.Proofs.Document.Sections
import UmlDiagrams.Proofs.Store.Records

namespace UmlDiagrams

variable {κ ν ε : Type} {s : Store}

/-- How a store holds a graph, and how the records of the graph stand in the table of records. -/
structure Slot (R : Rules κ ν ε) extends Part (Graph κ ν ε) where
  node : ν → Record
  edge : Edge κ ε → Record
  settings : ∀ (s : Store) g, s.SameSettings (put s g)
  nodes : ∀ s : Store, s.records R.nodes = (part s).nodes.map node
  edges : ∀ s : Store, s.records R.edges = (part s).edges.map edge
  others : ∀ (s : Store) g c, c ≠ R.nodes → c ≠ R.edges → (put s g).records c = s.records c
  issued : ∀ s : Store, s.issued R.kind = (part s).issued
  issuedOthers : ∀ (s : Store) g kind, kind ≠ R.kind → (put s g).issued kind = s.issued kind
  edge_id : ∀ e, (edge e).id? = some e.id
  nodes_ne_edges : R.nodes ≠ R.edges
  numbering : R.edges.numbering? = some R.kind
  relationships : R.edges.relationships? = none

namespace Slot

variable {R : Rules κ ν ε} (V : Slot R) {g : Graph κ ν ε}

theorem put_records (s : Store) (g : Graph κ ν ε) (c : Collection) :
    (V.put s g).records c =
      if c = R.nodes then g.nodes.map V.node
      else if c = R.edges then g.edges.map V.edge
      else s.records c := by
  by_cases hnodes : c = R.nodes
  · rw [if_pos hnodes, hnodes, V.nodes, V.part_put]
  · rw [if_neg hnodes]
    by_cases hedges : c = R.edges
    · rw [if_pos hedges, hedges, V.edges, V.part_put]
    · rw [if_neg hedges, V.others s g c hnodes hedges]

theorem put_nodes (hedges : g.edges = (V.part s).edges) :
    (V.put s g).records = Function.update s.records R.nodes (g.nodes.map V.node) := by
  funext c
  rw [put_records, Function.update_apply]
  by_cases hnodes : c = R.nodes
  · rw [if_pos hnodes, if_pos hnodes]
  · rw [if_neg hnodes, if_neg hnodes]
    by_cases hc : c = R.edges
    · rw [if_pos hc, hedges, hc, V.edges]
    · rw [if_neg hc]

theorem put_edges (hnodes : g.nodes = (V.part s).nodes) :
    (V.put s g).records = Function.update s.records R.edges (g.edges.map V.edge) := by
  funext c
  rw [put_records, Function.update_apply]
  by_cases hc : c = R.nodes
  · rw [if_pos hc, hnodes, hc, if_neg V.nodes_ne_edges, V.nodes]
  · rw [if_neg hc]

theorem put_issued (hissued : g.issued = (V.part s).issued) : (V.put s g).issued = s.issued := by
  funext kind
  by_cases hkind : kind = R.kind
  · rw [hkind, V.issued, V.issued, V.part_put, hissued]
  · exact V.issuedOthers s g kind hkind

private theorem issued_le_put (hissued : g.issued = (V.part s).issued + 1) (kind : Kind) :
    s.issued kind ≤ (V.put s g).issued kind := by
  by_cases hkind : kind = R.kind
  · rw [hkind, V.issued, V.issued, V.part_put, hissued]
    exact Nat.le_succ _
  · exact (V.issuedOthers s g kind hkind).ge

private theorem issued_lt_put (hissued : g.issued = (V.part s).issued + 1) :
    s.issued R.kind < (V.put s g).issued R.kind := by
  rw [V.issued, V.issued, V.part_put, hissued]
  exact Nat.lt_succ_self _

private theorem addedNode_done {name : String} {build : Id → String → ν}
    (h : Graph.AddedNode R name build (V.part s) g)
    (hid : ∀ text, (V.node (build ((V.part s).nextId R) text)).id? =
      R.nodes.numbering?.map fun kind => ⟨kind, s.issued kind⟩)
    (hnumbering : ∀ kind, R.nodes.numbering? = some kind → kind = R.kind) :
    (Deed.add R.nodes).Done s (V.put s g) := by
  obtain ⟨text, -, rfl⟩ := h
  refine ⟨⟨_, hid text, ?_⟩, V.issued_le_put rfl, fun kind hkind => ?_⟩
  · refine (V.put_nodes (by rfl)).trans ?_
    rw [V.nodes]
    simp [Graph.touch, Graph.withNode, Graph.countId]
  · rw [hnumbering kind hkind]
    exact V.issued_lt_put rfl

theorem addedEdge_done [DecidableEq κ] {source target : Option κ} {data : ε}
    (h : Graph.AddedEdge R source target data (V.part s) g) :
    (Deed.add R.edges).Done s (V.put s g) := by
  obtain ⟨a, b, -, rfl⟩ := h
  refine ⟨⟨V.edge ⟨(V.part s).nextId R, a, b, data⟩, ?_, ?_⟩, V.issued_le_put rfl,
    fun kind hkind => ?_⟩
  · rw [V.edge_id, V.numbering, Option.map_some, V.issued]
    rfl
  · refine (V.put_edges (by rfl)).trans ?_
    rw [V.edges]
    simp [Graph.touch, Graph.withEdge, Graph.countId]
  · rw [V.numbering] at hkind
    cases hkind
    exact V.issued_lt_put rfl

theorem changedEdge_done {id : Id} (h : Graph.ChangedEdge R id (V.part s) g) :
    (Deed.revise R.edges id).Done s (V.put s g) := by
  obtain ⟨old, hold, edge, hid, hedge, rfl⟩ := h
  refine ⟨⟨V.edge old, ?_, V.edge edge, ?_, ?_, ?_⟩, V.put_issued rfl, V.settings s _⟩
  · rw [V.edges]
    exact List.mem_map_of_mem hold
  · rw [V.edge_id, hid]
  · rw [V.edge_id, hedge]
  · refine (V.put_edges (by rfl)).trans ?_
    rw [V.edges]
    exact congrArg _ (map_replace_map (fun e => by rw [V.edge_id, Option.some.injEq, hedge]) edge)

theorem idsIn_edges (s : Store) : s.idsIn R.edges = (V.part s).edges.map (·.id) := by
  rw [Store.idsIn, V.edges, List.filterMap_map, ← List.filterMap_eq_map]
  exact congrArg (List.filterMap · _) (funext V.edge_id)

theorem removedEdge_done {id : Id} (h : Graph.RemovedEdge R id (V.part s) g) :
    (Deed.remove R.edges id).Done s (V.put s g) := by
  obtain ⟨hid, rfl⟩ := h
  refine ⟨?_, fun c' => ?_, V.put_issued rfl, V.settings s _⟩
  · rw [idsIn_edges]
    exact hid
  · have hrecords : (V.put s (Graph.touch [R.edges] (Graph.withoutEdge id (V.part s)))).records =
        _ := V.put_edges (by rfl)
    rw [hrecords, V.relationships, Function.update_apply]
    by_cases hc : c' = R.edges
    · rw [if_pos hc, if_pos hc, hc, V.edges]
      exact (filter_map_of fun e _ => by simp [V.edge_id]).symm
    · rw [if_neg hc, if_neg hc, if_neg (nomatch ·)]

theorem cleared_done (hnodes : g.nodes.Sublist (V.part s).nodes)
    (hedges : g.edges.Sublist (V.part s).edges) (hissued : g.issued = (V.part s).issued) :
    Deed.clear.Done s (V.put s g) := by
  refine ⟨fun c => ?_, V.put_issued hissued⟩
  rw [put_records]
  by_cases hn : c = R.nodes
  · rw [if_pos hn, hn, V.nodes]
    exact hnodes.map _
  · rw [if_neg hn]
    by_cases he : c = R.edges
    · rw [if_pos he, he, V.edges]
      exact hedges.map _
    · rw [if_neg he]

structure OfNames {κ ν ε : Type} {R : Rules κ ν ε} (V : Slot R) : Prop where
  node_id : ∀ n, (V.node n).id? = none
  numbering : R.nodes.numbering? = none

structure OfRecords {ν ε : Type} {R : Rules Id ν ε} (V : Slot R) : Prop where
  node_id : ∀ n, (V.node n).id? = some (R.key n)
  numbering : R.nodes.numbering? = some R.kind
  relationships : R.nodes.relationships? = some R.edges
  edge_ends : ∀ e, (V.edge e).ends = [e.source, e.target]

theorem OfNames.addedNode_done {V : Slot R} (hV : V.OfNames) {name : String}
    (build : Id → String → ν) (h : Graph.AddedNode R name build (V.part s) g) :
    (Deed.add R.nodes).Done s (V.put s g) := by
  refine V.addedNode_done h (fun text => ?_) fun kind hkind => ?_
  · rw [hV.node_id, hV.numbering]
    rfl
  · rw [hV.numbering] at hkind
    cases hkind

theorem removedNode_cleared [DecidableEq κ] {key : κ}
    (h : Graph.RemovedNode R key (V.part s) g) : Deed.clear.Done s (V.put s g) := by
  obtain ⟨-, rfl⟩ := h
  exact V.cleared_done List.filter_sublist List.filter_sublist rfl

section

variable {ν ε : Type} {R : Rules Id ν ε} {V : Slot R} (hV : V.OfRecords)
  {g : Graph Id ν ε} {id : Id}
include hV

theorem OfRecords.addedNode_done {name : String} (build : Id → String → ν)
    (hkey : ∀ id text, R.key (build id text) = id)
    (h : Graph.AddedNode R name build (V.part s) g) :
    (Deed.add R.nodes).Done s (V.put s g) := by
  refine V.addedNode_done h (fun text => ?_) fun kind hkind => ?_
  · rw [hV.node_id, hkey, hV.numbering, Option.map_some, V.issued]
    rfl
  · rw [hV.numbering] at hkind
    exact (Option.some.inj hkind).symm

theorem OfRecords.idsIn_nodes (s : Store) : s.idsIn R.nodes = (V.part s).keys R := by
  rw [Store.idsIn, V.nodes, List.filterMap_map, Graph.keys, ← List.filterMap_eq_map]
  exact congrArg (List.filterMap · _) (funext hV.node_id)

theorem OfRecords.changedNode_done {touched : Collection} {Keeps : ν → ν → Prop}
    (hkey : ∀ old new, Keeps old new → R.key new = R.key old)
    (h : Graph.ChangedNode R id touched Keeps (V.part s) g) :
    (Deed.revise R.nodes id).Done s (V.put s g) := by
  obtain ⟨old, hold, node, hid, hkeeps, rfl⟩ := h
  have hnode : R.key node = id := (hkey old node hkeeps).trans hid
  refine ⟨⟨V.node old, ?_, V.node node, ?_, ?_, ?_⟩, V.put_issued rfl, V.settings s _⟩
  · rw [V.nodes]
    exact List.mem_map_of_mem hold
  · rw [hV.node_id, hid]
  · rw [hV.node_id, hnode]
  · refine (V.put_nodes (by rfl)).trans ?_
    rw [V.nodes]
    exact congrArg _ (map_replace_map (fun n => by rw [hV.node_id, Option.some.injEq, hnode]) node)

theorem OfRecords.removedNode_done (h : Graph.RemovedNode R id (V.part s) g) :
    (Deed.remove R.nodes id).Done s (V.put s g) := by
  obtain ⟨hid, rfl⟩ := h
  refine ⟨?_, fun c' => ?_, V.put_issued rfl, V.settings s _⟩
  · rw [hV.idsIn_nodes]
    exact hid
  · rw [V.put_records, hV.relationships]
    by_cases hn : c' = R.nodes
    · rw [if_pos hn, if_pos hn, hn, V.nodes]
      exact (filter_map_of fun n _ => by simp [hV.node_id]).symm
    · rw [if_neg hn, if_neg hn]
      by_cases he : c' = R.edges
      · rw [if_pos he, if_pos (congrArg some he.symm), he, V.edges]
        refine (filter_map_of fun e _ => ?_).symm
        simp [hV.edge_ends, eq_comm]
      · rw [if_neg he, if_neg fun h => he (Option.some.inj h).symm]

end

end Slot

def SequenceDiagram.slot : Slot rules where
  toPart := Part.sequence
  node := .name
  edge := .message
  settings _ _ := ⟨rfl, rfl, rfl⟩
  nodes _ := rfl
  edges _ := rfl
  others s d c hn he := by
    cases c <;> first | rfl | contradiction
  issued _ := rfl
  issuedOthers s d kind h := by
    cases kind <;> first | rfl | contradiction
  edge_id _ := rfl
  nodes_ne_edges := by decide
  numbering := rfl
  relationships := rfl

theorem SequenceDiagram.slot_ofNames : slot.OfNames :=
  ⟨fun _ => rfl, rfl⟩

def ClassDiagram.slot : Slot rules where
  toPart := Part.classes
  node := .classRecord
  edge := .classRelationship
  settings _ _ := ⟨rfl, rfl, rfl⟩
  nodes _ := rfl
  edges _ := rfl
  others s d c hn he := by
    cases c <;> first | rfl | contradiction
  issued _ := rfl
  issuedOthers s d kind h := by
    cases kind <;> first | rfl | contradiction
  edge_id _ := rfl
  nodes_ne_edges := by decide
  numbering := rfl
  relationships := rfl

theorem ClassDiagram.slot_ofRecords : slot.OfRecords :=
  ⟨fun _ => rfl, rfl, rfl, fun _ => rfl⟩

def EntityDiagram.slot : Slot rules where
  toPart := Part.entity
  node := .entity
  edge := .erRelationship
  settings _ _ := ⟨rfl, rfl, rfl⟩
  nodes _ := rfl
  edges _ := rfl
  others s d c hn he := by
    cases c <;> first | rfl | contradiction
  issued _ := rfl
  issuedOthers s d kind h := by
    cases kind <;> first | rfl | contradiction
  edge_id _ := rfl
  nodes_ne_edges := by decide
  numbering := rfl
  relationships := rfl

theorem EntityDiagram.slot_ofRecords : slot.OfRecords :=
  ⟨fun _ => rfl, rfl, rfl, fun _ => rfl⟩

def FlowDiagram.activitySlot : Slot activityRules where
  toPart := Part.activity
  node := .name
  edge := .flow
  settings _ _ := ⟨rfl, rfl, rfl⟩
  nodes _ := rfl
  edges _ := rfl
  others s d c hn he := by
    cases c <;> first | rfl | contradiction
  issued _ := rfl
  issuedOthers s d kind h := by
    cases kind <;> first | rfl | contradiction
  edge_id _ := rfl
  nodes_ne_edges := by decide
  numbering := rfl
  relationships := rfl

def FlowDiagram.componentSlot : Slot componentRules where
  toPart := Part.component
  node := .name
  edge := .flow
  settings _ _ := ⟨rfl, rfl, rfl⟩
  nodes _ := rfl
  edges _ := rfl
  others s d c hn he := by
    cases c <;> first | rfl | contradiction
  issued _ := rfl
  issuedOthers s d kind h := by
    cases kind <;> first | rfl | contradiction
  edge_id _ := rfl
  nodes_ne_edges := by decide
  numbering := rfl
  relationships := rfl

def StateDiagram.slot : Slot rules where
  toPart := Part.state
  node := .name
  edge := .transition
  settings _ _ := ⟨rfl, rfl, rfl⟩
  nodes _ := rfl
  edges _ := rfl
  others s d c hn he := by
    cases c <;> first | rfl | contradiction
  issued _ := rfl
  issuedOthers s d kind h := by
    cases kind <;> first | rfl | contradiction
  edge_id _ := rfl
  nodes_ne_edges := by decide
  numbering := rfl
  relationships := rfl

end UmlDiagrams
