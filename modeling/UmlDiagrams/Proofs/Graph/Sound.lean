import UmlDiagrams.Proofs.Graph.Checks
import UmlDiagrams.Proofs.Lists
import UmlDiagrams.Proofs.Text.Trim
/-!
# The invariant of a graph

What holds of every graph between edits, and which changes keep it. The parts depend on one another:
a changed node keeps its place because nodes have distinct keys, and a moved edge is no duplicate
because edges have distinct identifiers.
-/

namespace UmlDiagrams

variable {κ ν ε α : Type}

namespace Rules

def Issued (R : Rules κ ν ε) (issued : Nat) (id : Id) : Prop :=
  id.kind = R.kind ∧ id.serial < issued

def Refers (R : Rules κ ν ε) (issued : Nat) (n : ν) : Prop :=
  R.reference (R.key n) = .name (R.name n) ∨
    ∃ id, R.reference (R.key n) = .id id ∧ R.Issued issued id

/-- Which of two edges comes first does not matter for whether they are duplicates. -/
def Symmetric (R : Rules κ ν ε) : Prop :=
  ∀ d d', R.clash d d' = R.clash d' d

/-- What `build` makes of an identifier and a name is a proper node that is known by one of them. -/
structure Builds (R : Rules κ ν ε) (Named : ν → Prop) (build : Id → String → ν) : Prop where
  name : ∀ id text, R.name (build id text) = text
  named : ∀ id text, Text.IsName text → Named (build id text)
  reference : ∀ id text, R.reference (R.key (build id text)) = .name text ∨
    R.reference (R.key (build id text)) = .id id

theorem Symmetric.distinct {R : Rules κ ν ε} (h : R.Symmetric) :
    Std.Symm fun e f => ¬ R.Duplicates e f where
  symm e f hne hd := hne ⟨hd.1.symm, hd.2.1.symm, h e.data f.data ▸ hd.2.2⟩

private theorem Issued.mono {R : Rules κ ν ε} {m n : Nat} {id : Id} (h : R.Issued m id)
    (hmn : m ≤ n) :
    R.Issued n id :=
  ⟨h.1, h.2.trans_le hmn⟩

private theorem Refers.mono {R : Rules κ ν ε} {m n : Nat} {node : ν} (h : R.Refers m node)
    (hmn : m ≤ n) :
    R.Refers n node := by
  rcases h with h | ⟨id, h, hid⟩
  · exact .inl h
  · exact .inr ⟨id, h, hid.mono hmn⟩

end Rules

namespace Graph

def printKeys (R : Rules κ ν ε) (g : Graph κ ν ε) : List (List Char) :=
  g.nodes.map fun n => printKey R.nodes (R.name n)

/-- The invariant. `Named` says of a node that it and its members have proper names. -/
structure Sound (R : Rules κ ν ε) (Named : ν → Prop) (g : Graph κ ν ε) : Prop where
  ends : ∀ e ∈ g.edges, e.source ∈ g.keys R ∧ e.target ∈ g.keys R
  named : ∀ n ∈ g.nodes, Named n
  printKeys : (g.printKeys R).Nodup
  keys : (g.keys R).Nodup
  unique : g.edges.Pairwise fun e f => ¬ R.Duplicates e f
  edgeIds : (g.edges.map (·.id)).Nodup
  nodesIssued : ∀ n ∈ g.nodes, R.Refers g.issued n
  edgesIssued : ∀ e ∈ g.edges, R.Issued g.issued e.id

variable {R : Rules κ ν ε} {Named : ν → Prop} {g : Graph κ ν ε}

theorem sound_empty (issued : Nat) (changes : List Collection) :
    Sound R Named { issued, changes } := by
  constructor <;> simp [Graph.printKeys, Graph.keys]

theorem changes_sound (h : Sound R Named g) (changes : List Collection) :
    Sound R Named { g with changes } :=
  ⟨h.ends, h.named, h.printKeys, h.keys, h.unique, h.edgeIds, h.nodesIssued, h.edgesIssued⟩

theorem touch_sound (h : Sound R Named g) (touched : List Collection) :
    Sound R Named (touch touched g) :=
  changes_sound h _

private theorem nextId_notMem (h : Sound R Named g) : g.nextId R ∉ g.edges.map (·.id) := by
  intro hm
  obtain ⟨e, he, hid⟩ := List.mem_map.mp hm
  have hlt := (h.edgesIssued e he).2
  rw [hid] at hlt
  exact Nat.lt_irrefl _ hlt

/-- A node that is known by a new name or by the next identifier has a new key. -/
private theorem key_notMem (h : Sound R Named g) {node : ν}
    (hp : printKey R.nodes (R.name node) ∉ g.printKeys R)
    (href : R.reference (R.key node) = .name (R.name node) ∨
      R.reference (R.key node) = .id (g.nextId R)) : R.key node ∉ g.keys R := by
  intro hm
  obtain ⟨n, hn, hkey⟩ := List.mem_map.mp hm
  rw [← hkey] at href
  rcases h.nodesIssued n hn with hname | ⟨id, hid, hissued⟩
  · rw [hname] at href
    rcases href with href | href
    · have heq := Reference.name.inj href
      exact hp (heq ▸ List.mem_map_of_mem hn)
    · cases href
  · rw [hid] at href
    rcases href with href | href
    · cases href
    · rw [Reference.id.inj href] at hissued
      exact Nat.lt_irrefl _ hissued.2

theorem withNode_sound (h : Sound R Named g) {node : ν} (hnamed : Named node)
    (hp : printKey R.nodes (R.name node) ∉ g.printKeys R)
    (href : R.reference (R.key node) = .name (R.name node) ∨
      R.reference (R.key node) = .id (g.nextId R)) :
    Sound R Named (withNode node g.countId) := by
  have hkey := key_notMem h hp href
  have hkeys : (withNode node g.countId).keys R = g.keys R ++ [R.key node] := by
    simp [Graph.keys, withNode, countId]
  have hprint : (withNode node g.countId).printKeys R =
      g.printKeys R ++ [printKey R.nodes (R.name node)] := by
    simp [Graph.printKeys, withNode, countId]
  have hnodes : ∀ n ∈ (withNode node g.countId).nodes, n ∈ g.nodes ∨ n = node := by
    intro n hn
    simpa [withNode, countId] using hn
  refine ⟨?_, ?_, ?_, ?_, h.unique, h.edgeIds, ?_, ?_⟩
  · intro e he
    rw [hkeys]
    exact ⟨List.mem_append_left _ (h.ends e he).1, List.mem_append_left _ (h.ends e he).2⟩
  · intro n hn
    rcases hnodes n hn with hn | rfl
    · exact h.named n hn
    · exact hnamed
  · rw [hprint, ← List.concat_eq_append]
    exact h.printKeys.concat hp
  · rw [hkeys, ← List.concat_eq_append]
    exact h.keys.concat hkey
  · intro n hn
    rcases hnodes n hn with hn | rfl
    · exact (h.nodesIssued n hn).mono (Nat.le_succ _)
    · rcases href with href | href
      · exact .inl href
      · exact .inr ⟨_, href, rfl, Nat.lt_succ_self _⟩
  · intro e he
    exact (h.edgesIssued e he).mono (Nat.le_succ _)

/-- The node at which an edge ends survives unless the edge is at the removed one. -/
theorem withoutNode_sound [DecidableEq κ] (h : Sound R Named g) (key : κ) :
    Sound R Named (withoutEdgesAt key (withoutNode R key g)) := by
  have hsub : (withoutEdgesAt key (withoutNode R key g)).edges.Sublist g.edges :=
    List.filter_sublist
  have hnodes : (withoutEdgesAt key (withoutNode R key g)).nodes.Sublist g.nodes :=
    List.filter_sublist
  have hkeys : ∀ k ∈ g.keys R, k ≠ key →
      k ∈ (withoutEdgesAt key (withoutNode R key g)).keys R := by
    intro k hk hne
    obtain ⟨n, hn, rfl⟩ := List.mem_map.mp hk
    exact List.mem_map_of_mem (List.mem_filter.mpr ⟨hn, decide_eq_true hne⟩)
  refine ⟨?_, ?_, h.printKeys.sublist (hnodes.map _), h.keys.sublist (hnodes.map _),
    h.unique.sublist hsub, h.edgeIds.sublist (hsub.map _), ?_, ?_⟩
  · intro e he
    obtain ⟨he, hne⟩ := List.mem_filter.mp he
    obtain ⟨hs, ht⟩ := Bool.and_eq_true_iff.mp hne
    exact ⟨hkeys _ (h.ends e he).1 (of_decide_eq_true hs),
      hkeys _ (h.ends e he).2 (of_decide_eq_true ht)⟩
  · exact fun n hn => h.named n (hnodes.subset hn)
  · exact fun n hn => h.nodesIssued n (hnodes.subset hn)
  · exact fun e he => h.edgesIssued e (hsub.subset he)

/-- A node may change into one with the same key and the same name. -/
theorem replaceNode_sound [DecidableEq κ] (h : Sound R Named g) {old node : ν}
    (hold : old ∈ g.nodes) (hkey : R.key node = R.key old) (hname : R.name node = R.name old)
    (hnamed : Named node) : Sound R Named (replaceNode R node g) := by
  have hsame : ∀ n ∈ g.nodes, R.key n = R.key node → n = old := fun n hn he =>
    eq_of_key_eq h.keys hn hold (he.trans hkey)
  have hkeys : (replaceNode R node g).keys R = g.keys R :=
    map_map_replace fun _ _ he => he
  have hprint : (replaceNode R node g).printKeys R = g.printKeys R := by
    apply map_map_replace
    intro n hn he
    rw [hsame n hn he, hname]
  refine ⟨?_, ?_, ?_, ?_, h.unique, h.edgeIds, ?_, h.edgesIssued⟩
  · intro e he
    rw [hkeys]
    exact h.ends e he
  · intro n hn
    rcases mem_map_replace hn with rfl | hn
    · exact hnamed
    · exact h.named n hn
  · rw [hprint]
    exact h.printKeys
  · rw [hkeys]
    exact h.keys
  · intro n hn
    rcases mem_map_replace hn with rfl | hn
    · have hissued := h.nodesIssued old hold
      rw [Rules.Refers, ← hkey, ← hname] at hissued
      exact hissued
    · exact h.nodesIssued n hn

theorem withEdge_sound (h : Sound R Named g) {source target : κ} {data : ε}
    (hs : source ∈ g.keys R) (ht : target ∈ g.keys R)
    (hu : ∀ e ∈ g.edges, ¬ R.Duplicates e ⟨g.nextId R, source, target, data⟩) :
    Sound R Named (withEdge ⟨g.nextId R, source, target, data⟩ g.countId) := by
  have hedges : ∀ e ∈ (withEdge ⟨g.nextId R, source, target, data⟩ g.countId).edges,
      e ∈ g.edges ∨ e = ⟨g.nextId R, source, target, data⟩ := by
    intro e he
    simpa [withEdge, countId] using he
  refine ⟨?_, h.named, h.printKeys, h.keys, ?_, ?_, ?_, ?_⟩
  · intro e he
    rcases hedges e he with he | rfl
    · exact h.ends e he
    · exact ⟨hs, ht⟩
  · rw [withEdge, List.pairwise_append]
    refine ⟨h.unique, List.pairwise_singleton _ _, fun e he f hf => ?_⟩
    rw [List.mem_singleton.mp hf]
    exact hu e he
  · rw [withEdge, List.map_append, List.map_singleton, ← List.concat_eq_append]
    exact h.edgeIds.concat (nextId_notMem h)
  · exact fun n hn => (h.nodesIssued n hn).mono (Nat.le_succ _)
  · intro e he
    rcases hedges e he with he | rfl
    · exact (h.edgesIssued e he).mono (Nat.le_succ _)
    · exact ⟨rfl, Nat.lt_succ_self _⟩

theorem withoutEdge_sound (h : Sound R Named g) (id : Id) :
    Sound R Named (withoutEdge id g) := by
  have hsub : (withoutEdge id g).edges.Sublist g.edges := List.filter_sublist
  exact ⟨fun e he => h.ends e (hsub.subset he), h.named, h.printKeys, h.keys,
    h.unique.sublist hsub, h.edgeIds.sublist (hsub.map _), h.nodesIssued,
    fun e he => h.edgesIssued e (hsub.subset he)⟩

/-- An edge may change into one that keeps its identifier and duplicates no other. -/
theorem replaceEdge_sound (hR : R.Symmetric) (h : Sound R Named g) {old edge : Edge κ ε}
    (hold : old ∈ g.edges) (hid : edge.id = old.id) (hs : edge.source ∈ g.keys R)
    (ht : edge.target ∈ g.keys R)
    (hu : ∀ e ∈ g.edges, e.id ≠ edge.id → ¬ R.Duplicates e edge) :
    Sound R Named (replaceEdge edge g) := by
  have hids : (replaceEdge edge g).edges.map (·.id) = g.edges.map (·.id) :=
    map_map_replace fun _ _ he => he
  refine ⟨?_, h.named, h.printKeys, h.keys, ?_, ?_, h.nodesIssued, ?_⟩
  · intro e he
    rcases mem_map_replace he with rfl | he
    · exact ⟨hs, ht⟩
    · exact h.ends e he
  · have := hR.distinct
    exact pairwise_map_replace h.edgeIds h.unique hu
  · rw [hids]
    exact h.edgeIds
  · intro e he
    rcases mem_map_replace he with rfl | he
    · rw [hid]
      exact h.edgesIssued old hold
    · exact h.edgesIssued e he

end Graph

end UmlDiagrams
