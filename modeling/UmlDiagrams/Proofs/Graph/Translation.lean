import UmlDiagrams.Proofs.Graph.Likeness
import UmlDiagrams.Proofs.Mirrors
import UmlDiagrams.Proofs.Renaming
/-!
# Graphs read as graphs of another kind

A translation reads the graph of one diagram as that of another: nodes, keys and edge data are
mapped, collections and identifiers renamed. What the rules look at must survive. Every edit then
mirrors its translation, as all checks pass or fail alike.
-/

namespace UmlDiagrams

variable {κ κ' ν ν' ε ε' α α' : Type}

private theorem notice_map {f : Collection → Collection} (hf : Function.Injective f)
    (pending touched : List Collection) :
    notice (pending.map f) (touched.map f) = (notice pending touched).map f := by
  induction touched generalizing pending with
  | nil => rfl
  | cons c touched ih =>
    have hcons : (if f c ∈ pending.map f then pending.map f else pending.map f ++ [f c]) =
        (if c ∈ pending then pending else pending ++ [c]).map f := by
      by_cases hc : c ∈ pending <;> simp [hf, hc]
    rw [List.map_cons, notice, notice, List.foldl_cons, List.foldl_cons, hcons]
    exact ih _

/-- A way to read graphs with the rules `R` as graphs with the rules `R'`. -/
structure Translation (R : Rules κ ν ε) (R' : Rules κ' ν' ε') where
  names : Renaming
  key : κ → κ'
  node : ν → ν'
  data : ε → ε'
  kind_eq : R'.kind = names.kind R.kind
  nodes_eq : R'.nodes = names.collection R.nodes
  edges_eq : R'.edges = names.collection R.edges
  key_injective : Function.Injective key
  key_node : ∀ n, R'.key (node n) = key (R.key n)
  name_node : ∀ n, R'.name (node n) = R.name n
  reference_key : ∀ k, R'.reference (key k) = names.labels.reference (R.reference k)
  clash_data : ∀ d e, R'.clash (data d) (data e) = R.clash d e

namespace Translation

open Stateful UmlDiagrams.Graph

variable {R : Rules κ ν ε} {R' : Rules κ' ν' ε'} (T : Translation R R')

def edge (e : Edge κ ε) : Edge κ' ε' :=
  ⟨T.names.record e.id, T.key e.source, T.key e.target, T.data e.data⟩

def graph (g : Graph κ ν ε) : Graph κ' ν' ε' where
  nodes := g.nodes.map T.node
  edges := g.edges.map T.edge
  issued := g.issued
  changes := g.changes.map T.names.collection

/-- An outcome of a check, translated. -/
abbrev outcome (answer : α → α') : Except Rejection α → Except Rejection α' :=
  outcomeImage T.names.rejection answer

abbrev Mirrors (answer : α → α') (x : Editing (Graph κ ν ε) α) (y : Editing (Graph κ' ν' ε') α')
    (g : Graph κ ν ε) : Prop :=
  Stateful.Mirrors T.graph T.names.rejection answer x y g

variable {T} {g : Graph κ ν ε}

def likeness (T : Translation R R') : Likeness R R' where
  labels := T.names.labels
  key := T.key
  node := T.node
  data := T.data
  Noted pending pending' := pending' = pending.map T.names.collection
  nodes_eq := T.nodes_eq
  edges_eq := T.edges_eq
  record_injective := T.names.record_injective
  key_injective := T.key_injective
  key_node := T.key_node
  name_node := T.name_node
  reference_key := T.reference_key
  clash_data := T.clash_data
  noted touched pending pending' h := by
    rw [h]
    exact notice_map T.names.collection.injective pending touched

private theorem alike_iff {g' : Graph κ' ν' ε'} : T.likeness.Alike g g' ↔ g' = T.graph g := by
  constructor
  · intro h
    have hissued : g.issued = g'.issued := (Id.mk.inj (h.ids 0)).2
    cases g'
    rw [graph, Graph.mk.injEq]
    exact ⟨h.nodes, h.edges, hissued.symm, h.changes⟩
  · rintro rfl
    exact ⟨rfl, rfl, fun n => by simp [likeness, Renaming.labels, Renaming.record, graph, T.kind_eq],
      rfl⟩

private theorem alike_graph : T.likeness.Alike g (T.graph g) :=
  alike_iff.mpr rfl

private theorem mirrors_of_simulates {answer : α → α'} {x : Editing (Graph κ ν ε) α}
    {y : Editing (Graph κ' ν' ε') α'} (h : T.likeness.Simulates answer x y g (T.graph g)) :
    T.Mirrors answer x y g := by
  have hrel : T.likeness.Alike = fun g g' => g' = T.graph g := by
    funext g g'
    exact propext alike_iff
  rw [Likeness.Simulates, hrel] at h
  exact Stateful.mirrors_iff.mpr h

theorem addNode_mirrors {name : String} {build : Id → String → ν} {build' : Id → String → ν'}
    (hbuild : ∀ id text, build' (T.names.record id) text = T.node (build id text))
    (hprints : ∀ n ∈ g.nodes.map R.name, printKey R'.nodes n = printKey R'.nodes (Text.trim name) ↔
      printKey R.nodes n = printKey R.nodes (Text.trim name)) :
    T.Mirrors T.names.record (addNode R name build) (addNode R' name build') g :=
  mirrors_of_simulates (Likeness.addNode_simulates alike_graph hbuild hprints)

theorem removeEdge_mirrors (edge : Id) :
    T.Mirrors id (removeEdge R edge) (removeEdge R' (T.names.record edge)) g :=
  mirrors_of_simulates (Likeness.removeEdge_simulates alike_graph edge)

theorem reviseEdge_mirrors (edge : Id) (revise : ε → ε) (revise' : ε' → ε')
    (hrevise : ∀ d, revise' (T.data d) = T.data (revise d)) :
    T.Mirrors id (reviseEdge R edge revise) (reviseEdge R' (T.names.record edge) revise') g :=
  mirrors_of_simulates (Likeness.reviseEdge_simulates alike_graph edge hrevise)

theorem clear_mirrors : T.graph (g.clear R) = (T.graph g).clear R' :=
  (alike_iff.mp alike_graph.clear).symm

theorem takeMember_renamed (names : Renaming) (c : Collection) (f : α → α') (members : List α)
    (index : Nat) :
    takeMember (names.collection c) (members.map f) index =
      outcomeImage names.rejection (Prod.map f (List.map f)) (takeMember c members index) :=
  names.labels.takeMember_eq f members index

variable [DecidableEq κ] [DecidableEq κ']

theorem removeNode_mirrors (key : κ) :
    T.Mirrors id (removeNode R key) (removeNode R' (T.key key)) g :=
  mirrors_of_simulates (Likeness.removeNode_simulates alike_graph key)

theorem addEdge_mirrors (source target : Option κ) (data : ε) :
    T.Mirrors T.names.record (addEdge R source target data)
      (addEdge R' (source.map T.key) (target.map T.key) (T.data data)) g :=
  mirrors_of_simulates (Likeness.addEdge_simulates alike_graph source target data)

theorem retarget_mirrors (edge : Id) (source target : κ) :
    T.Mirrors id (retarget R edge source target)
      (retarget R' (T.names.record edge) (T.key source) (T.key target)) g :=
  mirrors_of_simulates (Likeness.retarget_simulates alike_graph edge source target)

theorem retypeEdge_mirrors (edge : Id) (retype : ε → ε) (retype' : ε' → ε')
    (hretype : ∀ d, retype' (T.data d) = T.data (retype d)) :
    T.Mirrors id (retypeEdge R edge retype) (retypeEdge R' (T.names.record edge) retype') g :=
  mirrors_of_simulates (Likeness.retypeEdge_simulates alike_graph edge hretype)

omit [DecidableEq κ] [DecidableEq κ'] in
theorem reviseNode_mirrors {R : Rules Id ν ε} {R' : Rules Id ν' ε'} {T : Translation R R'}
    {g : Graph Id ν ε} (hkey : T.key = T.names.record) (node : Id) (touched : Collection)
    {answer : α → α'} {revise : ν → Except Rejection (α × ν)}
    {revise' : ν' → Except Rejection (α' × ν')}
    (hrevise : ∀ n, revise' (T.node n) = T.outcome (Prod.map answer T.node) (revise n)) :
    T.Mirrors answer (reviseNode R node touched revise)
      (reviseNode R' (T.names.record node) (T.names.collection touched) revise') g :=
  mirrors_of_simulates (Likeness.reviseNode_simulates alike_graph hkey node touched hrevise)

end Translation

end UmlDiagrams
