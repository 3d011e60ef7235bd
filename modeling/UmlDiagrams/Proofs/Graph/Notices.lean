import UmlDiagrams.Proofs.Changes
import UmlDiagrams.Proofs.Graph.Effects
import UmlDiagrams.Proofs.Graph.Sound
/-!
# What edits of a graph note

A change notice is kept until the notices are taken. Of the nodes only what `head` shows of them is
compared, as members of a node have collections of their own.
-/

namespace UmlDiagrams

variable {κ ν ε δ μ : Type}

namespace Graph

/-- The second graph notes all that the first one notes, and each of its two lists in which it
differs from the first. -/
structure Noted (R : Rules κ ν ε) (head : ν → δ) (g g' : Graph κ ν ε) : Prop where
  kept : g.changes ⊆ g'.changes
  nodes : g'.nodes.map head = g.nodes.map head ∨ R.nodes ∈ g'.changes
  edges : g'.edges = g.edges ∨ R.edges ∈ g'.changes

/-- The members of all nodes, which make up the collection `c`, are the same or noted. -/
def MembersNoted (members : ν → List μ) (c : Collection) (g g' : Graph κ ν ε) : Prop :=
  g'.nodes.flatMap members = g.nodes.flatMap members ∨ c ∈ g'.changes

variable {R : Rules κ ν ε} {head : ν → δ} {members : ν → List μ} {c : Collection}
  {touched : List Collection} {g g' : Graph κ ν ε}

private theorem subset_touch : g.changes ⊆ (touch touched g).changes :=
  fun _ hc => mem_notice.mpr (.inl hc)

private theorem mem_touch (h : c ∈ touched) : c ∈ (touch touched g).changes :=
  mem_notice.mpr (.inr h)

theorem Noted.names (h : g.Noted R id g') : g'.nodes = g.nodes ∨ R.nodes ∈ g'.changes := by
  have hnodes := h.nodes
  rwa [List.map_id, List.map_id] at hnodes

theorem clear_noted : g.Noted R head (g.clear R) :=
  ⟨subset_touch, .inr (mem_touch (by simp)), .inr (mem_touch (by simp))⟩

namespace AddedNode

variable {name : String} {build : Id → String → ν}

theorem noted (h : AddedNode R name build g g') : g.Noted R head g' := by
  obtain ⟨text, -, rfl⟩ := h
  exact ⟨subset_touch, .inr (mem_touch (by simp)), .inl rfl⟩

theorem membersNoted (h : AddedNode R name build g g')
    (hbuild : ∀ id text, members (build id text) = []) : g.MembersNoted members c g' := by
  obtain ⟨text, -, rfl⟩ := h
  left
  rw [touch, withNode, countId, List.flatMap_append, List.flatMap_singleton, hbuild,
    List.append_nil]

end AddedNode

theorem RemovedNode.noted [DecidableEq κ] {key : κ} (h : RemovedNode R key g g') :
    g.Noted R head g' := by
  obtain ⟨-, rfl⟩ := h
  exact ⟨subset_touch, .inr (mem_touch (by simp)), .inr (mem_touch (by simp))⟩

namespace AddedEdge

variable [DecidableEq κ] {source target : Option κ} {data : ε}

theorem noted (h : AddedEdge R source target data g g') : g.Noted R head g' := by
  obtain ⟨a, b, -, rfl⟩ := h
  exact ⟨subset_touch, .inl rfl, .inr (mem_touch (by simp))⟩

theorem membersNoted (h : AddedEdge R source target data g g') : g.MembersNoted members c g' := by
  obtain ⟨a, b, -, rfl⟩ := h
  exact .inl rfl

end AddedEdge

namespace RemovedEdge

variable {id : Id}

theorem noted (h : RemovedEdge R id g g') : g.Noted R head g' := by
  obtain ⟨-, rfl⟩ := h
  exact ⟨subset_touch, .inl rfl, .inr (mem_touch (by simp))⟩

theorem membersNoted (h : RemovedEdge R id g g') : g.MembersNoted members c g' := by
  obtain ⟨-, rfl⟩ := h
  exact .inl rfl

end RemovedEdge

namespace ChangedEdge

variable {id : Id}

theorem noted (h : ChangedEdge R id g g') : g.Noted R head g' := by
  obtain ⟨old, -, edge, -, -, rfl⟩ := h
  exact ⟨subset_touch, .inl rfl, .inr (mem_touch (by simp))⟩

theorem membersNoted (h : ChangedEdge R id g g') : g.MembersNoted members c g' := by
  obtain ⟨old, -, edge, -, -, rfl⟩ := h
  exact .inl rfl

end ChangedEdge

namespace ChangedNode

variable {R : Rules Id ν ε} {g g' : Graph Id ν ε} {id : Id} {noted : Collection}
  {Keeps : ν → ν → Prop}

theorem mem_changes (h : ChangedNode R id noted Keeps g g') : noted ∈ g'.changes := by
  obtain ⟨old, -, node, -, -, rfl⟩ := h
  exact mem_touch List.mem_cons_self

theorem subset_changes (h : ChangedNode R id noted Keeps g g') : g.changes ⊆ g'.changes := by
  obtain ⟨old, -, node, -, -, rfl⟩ := h
  exact subset_touch

theorem edges_eq (h : ChangedNode R id noted Keeps g g') : g'.edges = g.edges := by
  obtain ⟨old, -, node, -, -, rfl⟩ := h
  rfl

/-- What `view` shows of the nodes stays if the change keeps it, as identifiers are distinct. -/
private theorem map_eq {view : ν → δ} (h : ChangedNode R id noted Keeps g g')
    (hkeys : (g.keys R).Nodup)
    (hKeeps : ∀ old new, Keeps old new → R.key new = R.key old ∧ view new = view old) :
    g'.nodes.map view = g.nodes.map view := by
  obtain ⟨old, hold, node, -, hnode, rfl⟩ := h
  obtain ⟨hkey, hview⟩ := hKeeps old node hnode
  apply map_map_replace
  intro n hn heq
  rw [eq_of_key_eq hkeys hn hold (heq.trans hkey), hview]

theorem noted_of_head (h : ChangedNode R id noted Keeps g g') (hkeys : (g.keys R).Nodup)
    (hKeeps : ∀ old new, Keeps old new → R.key new = R.key old ∧ head new = head old) :
    g.Noted R head g' :=
  ⟨h.subset_changes, .inl (h.map_eq hkeys hKeeps), .inl h.edges_eq⟩

theorem membersNoted (h : ChangedNode R id noted Keeps g g') (hkeys : (g.keys R).Nodup)
    (hkey : ∀ old new, Keeps old new → R.key new = R.key old)
    (hKeeps : noted = c ∨ ∀ old new, Keeps old new → members new = members old) :
    g.MembersNoted members c g' := by
  rcases hKeeps with rfl | hmembers
  · exact .inr h.mem_changes
  · left
    rw [List.flatMap_def, List.flatMap_def,
      h.map_eq hkeys fun old new hold => ⟨hkey old new hold, hmembers old new hold⟩]

end ChangedNode

end Graph

end UmlDiagrams
