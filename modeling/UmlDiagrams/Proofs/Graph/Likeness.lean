import UmlDiagrams.Proofs.Graph.Edits
import UmlDiagrams.Proofs.Relabeling
import UmlDiagrams.Proofs.Simulation
/-!
# Graphs that are alike

Two graphs are alike if one consists of the images of what the other consists of, and if the records
to come will correspond as well. What the rules look at must survive. All checks then pass or fail
alike, and an edit of one graph simulates the same edit of the other.
-/

namespace UmlDiagrams

variable {κ κ' ν ν' ε ε' α α' : Type}

/-- A way to take graphs with the rules `R'` for graphs with the rules `R`. -/
structure Likeness (R : Rules κ ν ε) (R' : Rules κ' ν' ε') where
  labels : Relabeling
  key : κ → κ'
  node : ν → ν'
  data : ε → ε'
  /-- Which pending notices are taken for each other. -/
  Noted : List Collection → List Collection → Prop
  nodes_eq : R'.nodes = labels.collection R.nodes
  edges_eq : R'.edges = labels.collection R.edges
  record_injective : Function.Injective labels.record
  key_injective : Function.Injective key
  key_node : ∀ n, R'.key (node n) = key (R.key n)
  name_node : ∀ n, R'.name (node n) = R.name n
  reference_key : ∀ k, R'.reference (key k) = labels.reference (R.reference k)
  clash_data : ∀ d e, R'.clash (data d) (data e) = R.clash d e
  noted : ∀ touched pending pending', Noted pending pending' →
    Noted (notice pending touched) (notice pending' (touched.map labels.collection))

namespace Likeness

open Stateful UmlDiagrams.Graph

variable {R : Rules κ ν ε} {R' : Rules κ' ν' ε'} (L : Likeness R R')

def edge (e : Edge κ ε) : Edge κ' ε' :=
  ⟨L.labels.record e.id, L.key e.source, L.key e.target, L.data e.data⟩

structure Alike (g : Graph κ ν ε) (g' : Graph κ' ν' ε') : Prop where
  nodes : g'.nodes = g.nodes.map L.node
  edges : g'.edges = g.edges.map L.edge
  /-- The identifiers that the graphs have still to issue. -/
  ids : ∀ n, L.labels.record ⟨R.kind, g.issued + n⟩ = ⟨R'.kind, g'.issued + n⟩
  changes : L.Noted g.changes g'.changes

/-- An outcome of a check on the other graph. -/
abbrev outcome (answer : α → α') : Except Rejection α → Except Rejection α' :=
  outcomeImage L.labels.rejection answer

/-- On `g'`, the edit `y` does what `x` does on `g`. -/
abbrev Simulates (answer : α → α') (x : Editing (Graph κ ν ε) α) (y : Editing (Graph κ' ν' ε') α')
    (g : Graph κ ν ε) (g' : Graph κ' ν' ε') : Prop :=
  Stateful.Simulates L.Alike L.labels.rejection answer x y g g'

variable {L} {g : Graph κ ν ε} {g' : Graph κ' ν' ε'}

private theorem edge_injective_id (e f : Edge κ ε) : (L.edge e).id = (L.edge f).id ↔ e.id = f.id :=
  L.record_injective.eq_iff

namespace Alike

private theorem nextId (h : L.Alike g g') : g'.nextId R' = L.labels.record (g.nextId R) :=
  (h.ids 0).symm

private theorem keys (h : L.Alike g g') : g'.keys R' = (g.keys R).map L.key := by
  simp [Graph.keys, h.nodes, L.key_node]

private theorem names (h : L.Alike g g') : g'.nodes.map R'.name = g.nodes.map R.name := by
  simp [h.nodes, L.name_node]

private theorem edgeIds (h : L.Alike g g') :
    g'.edges.map (·.id) = (g.edges.map (·.id)).map L.labels.record := by
  simp [h.edges, Likeness.edge]

private theorem touch (h : L.Alike g g') (touched : List Collection) :
    L.Alike (touch touched g) (touch (touched.map L.labels.collection) g') :=
  { h with changes := L.noted touched _ _ h.changes }

private theorem countId (h : L.Alike g g') : L.Alike g.countId g'.countId := by
  refine { h with ids := fun n => ?_ }
  rw [Graph.countId, Graph.countId, Nat.add_assoc, Nat.add_assoc]
  exact h.ids (1 + n)

private theorem withNode (h : L.Alike g g') (n : ν) :
    L.Alike (withNode n g) (withNode (L.node n) g') :=
  { h with nodes := by simp [Graph.withNode, h.nodes] }

private theorem withEdge (h : L.Alike g g') (e : Edge κ ε) :
    L.Alike (withEdge e g) (withEdge (L.edge e) g') :=
  { h with edges := by simp [Graph.withEdge, h.edges] }

private theorem withoutEdge (h : L.Alike g g') (id : Id) :
    L.Alike (withoutEdge id g) (withoutEdge (L.labels.record id) g') := by
  refine { h with edges := ?_ }
  rw [Graph.withoutEdge, h.edges]
  refine filter_map_of fun e _ => ?_
  simp [Likeness.edge, L.record_injective.eq_iff]

private theorem replaceEdge (h : L.Alike g g') (e : Edge κ ε) :
    L.Alike (replaceEdge e g) (replaceEdge (L.edge e) g') := by
  refine { h with edges := ?_ }
  rw [Graph.replaceEdge, h.edges]
  exact (map_replace_map (fun f => edge_injective_id f e) e).symm

theorem clear (h : L.Alike g g') : L.Alike (g.clear R) (g'.clear R') := by
  have hempty : L.Alike { g with nodes := [], edges := [] } { g' with nodes := [], edges := [] } :=
    { h with nodes := rfl, edges := rfl }
  have htouch := hempty.touch [R.nodes, R.edges]
  rw [List.map_cons, List.map_singleton, ← L.nodes_eq, ← L.edges_eq] at htouch
  exact htouch

private theorem findEdge? (h : L.Alike g g') (id : Id) :
    g'.findEdge? (L.labels.record id) = (g.findEdge? id).map L.edge := by
  simp only [Graph.findEdge?, h.edges, List.find?_map]
  congr 2
  funext e
  simp [Likeness.edge, L.record_injective.eq_iff]

private theorem requireEdge (h : L.Alike g g') (id : Id) :
    g'.requireEdge R' (L.labels.record id) = L.outcome L.edge (g.requireEdge R id) := by
  rw [Graph.requireEdge, Graph.requireEdge, h.findEdge?, L.edges_eq]
  cases g.findEdge? id <;> rfl

end Alike

theorem addNode_simulates (h : L.Alike g g') {name : String} {build : Id → String → ν}
    {build' : Id → String → ν'}
    (hbuild : ∀ id text, build' (L.labels.record id) text = L.node (build id text))
    (hprints : ∀ n ∈ g.nodes.map R.name, printKey R'.nodes n = printKey R'.nodes (Text.trim name) ↔
      printKey R.nodes n = printKey R.nodes (Text.trim name)) :
    L.Simulates L.labels.record (addNode R name build) (addNode R' name build') g g' := by
  rw [L.nodes_eq] at hprints
  rw [Simulates, Stateful.Simulates, addNode_run, addNode_run, h.names, L.nodes_eq,
    L.labels.newName_eq hprints]
  cases newName R.nodes (g.nodes.map R.name) name with
  | ok text =>
    have hadded := (h.countId.withNode (build (g.nextId R) text)).touch [R.nodes]
    rw [← hbuild] at hadded
    rw [h.nextId]
    exact .ok (g.nextId R) hadded
  | error e => exact .error e h

theorem removeEdge_simulates (h : L.Alike g g') (edge : Id) :
    L.Simulates id (removeEdge R edge) (removeEdge R' (L.labels.record edge)) g g' := by
  have hedge : L.labels.record edge ∈ g'.edges.map (·.id) ↔ edge ∈ g.edges.map (·.id) := by
    rw [h.edgeIds, List.mem_map_of_injective L.record_injective]
  rw [Simulates, Stateful.Simulates, removeEdge_run, removeEdge_run, L.edges_eq]
  by_cases hmem : edge ∈ g.edges.map (·.id)
  · rw [if_pos hmem, if_pos (hedge.mpr hmem)]
    exact .ok true ((h.withoutEdge edge).touch [R.edges])
  · rw [if_neg hmem, if_neg (mt hedge.mp hmem)]
    exact .ok false h

theorem reviseEdge_simulates (h : L.Alike g g') (edge : Id) {revise : ε → ε} {revise' : ε' → ε'}
    (hrevise : ∀ d, revise' (L.data d) = L.data (revise d)) :
    L.Simulates id (reviseEdge R edge revise) (reviseEdge R' (L.labels.record edge) revise')
      g g' := by
  rw [Simulates, Stateful.Simulates, reviseEdge_run, reviseEdge_run, h.requireEdge, L.edges_eq]
  cases g.requireEdge R edge with
  | ok old =>
    have hrevised := (h.replaceEdge { old with data := revise old.data }).touch [R.edges]
    rw [Likeness.edge, ← hrevise] at hrevised
    exact .ok () hrevised
  | error e => exact .error e h

variable [DecidableEq κ] [DecidableEq κ']

namespace Alike

private theorem withoutNode (h : L.Alike g g') (key : κ) :
    L.Alike (withoutNode R key g) (withoutNode R' (L.key key) g') := by
  refine { h with nodes := ?_ }
  rw [Graph.withoutNode, h.nodes]
  refine filter_map_of fun n _ => ?_
  simp [L.key_node, L.key_injective.eq_iff]

private theorem withoutEdgesAt (h : L.Alike g g') (key : κ) :
    L.Alike (withoutEdgesAt key g) (withoutEdgesAt (L.key key) g') := by
  refine { h with edges := ?_ }
  rw [Graph.withoutEdgesAt, h.edges]
  refine filter_map_of fun e _ => ?_
  simp [Likeness.edge, L.key_injective.eq_iff]

private theorem replaceNode (h : L.Alike g g') (n : ν) :
    L.Alike (replaceNode R n g) (replaceNode R' (L.node n) g') := by
  have hkey (m : ν) : R'.key (L.node m) = R'.key (L.node n) ↔ R.key m = R.key n := by
    rw [L.key_node, L.key_node, L.key_injective.eq_iff]
  refine { h with nodes := ?_ }
  rw [Graph.replaceNode, h.nodes]
  exact (map_replace_map hkey n).symm

theorem findNode? (h : L.Alike g g') (key : κ) :
    g'.findNode? R' (L.key key) = (g.findNode? R key).map L.node := by
  simp only [Graph.findNode?, h.nodes, List.find?_map]
  congr 2
  funext n
  simp [L.key_node, L.key_injective.eq_iff]

private theorem requireUnique (h : L.Alike g g') (skip : Option Id) (source target : κ) (data : ε) :
    g'.requireUnique R' (skip.map L.labels.record) (L.key source) (L.key target) (L.data data) =
      L.outcome id (g.requireUnique R skip source target data) := by
  have hskip (i : Id) : some (L.labels.record i) = skip.map L.labels.record ↔ some i = skip := by
    rw [← Option.map_some, (Option.map_injective L.record_injective).eq_iff]
  have hduplicate : g'.hasDuplicate R' (skip.map L.labels.record) (L.key source) (L.key target)
      (L.data data) = g.hasDuplicate R skip source target data := by
    simp only [hasDuplicate, h.edges, List.any_map, Function.comp_def, Likeness.edge, ne_eq, hskip,
      L.key_injective.eq_iff, L.clash_data]
  rw [Graph.requireUnique, Graph.requireUnique, hduplicate, L.edges_eq]
  cases g.hasDuplicate R skip source target data <;> rfl

private theorem pickEnd (h : L.Alike g g') (requested : Option κ) (position : Nat) :
    pickEnd R'.nodes R'.reference (g'.keys R') (requested.map L.key) position =
      L.outcome L.key (pickEnd R.nodes R.reference (g.keys R) requested position) := by
  rw [h.keys, L.nodes_eq]
  exact L.labels.pickEnd_eq L.key_injective L.reference_key _ requested position

private theorem newEnds (h : L.Alike g g') (source target : Option κ) (data : ε) :
    g'.newEnds R' (source.map L.key) (target.map L.key) (L.data data) =
      L.outcome (Prod.map L.key L.key) (g.newEnds R source target data) := by
  have hrequire : requireNodes R'.nodes 2 (g'.keys R').length =
      L.outcome id (requireNodes R.nodes 2 (g.keys R).length) := by
    rw [h.keys, List.length_map, L.nodes_eq, Relabeling.requireNodes_eq]
  have hunique (a b : κ) := h.requireUnique none a b data
  simp only [Option.map_none] at hunique
  simp only [Graph.newEnds]
  rw [hrequire, h.pickEnd]
  refine outcomeImage_bind fun _ => outcomeImage_bind fun a => ?_
  rw [h.pickEnd]
  refine outcomeImage_bind fun b => ?_
  rw [hunique]
  exact outcomeImage_bind fun _ => rfl

private theorem movedEdge (h : L.Alike g g') (id : Id) (source target : κ) :
    g'.movedEdge R' (L.labels.record id) (L.key source) (L.key target) =
      L.outcome L.edge (g.movedEdge R id source target) := by
  have hsource := h.pickEnd (some source) 0
  have htarget := h.pickEnd (some target) 1
  have hunique (a b : κ) (d : ε) := h.requireUnique (some id) a b d
  simp only [Option.map_some] at hsource htarget hunique
  simp only [Graph.movedEdge]
  rw [hsource, htarget]
  refine outcomeImage_bind fun a => outcomeImage_bind fun b => ?_
  rw [h.requireEdge]
  refine outcomeImage_bind fun e => ?_
  rw [Likeness.edge, hunique]
  exact outcomeImage_bind fun _ => rfl

private theorem retypedEdge (h : L.Alike g g') (id : Id) {retype : ε → ε} {retype' : ε' → ε'}
    (hretype : ∀ d, retype' (L.data d) = L.data (retype d)) :
    g'.retypedEdge R' (L.labels.record id) retype' =
      L.outcome L.edge (g.retypedEdge R id retype) := by
  have hunique (a b : κ) (d : ε) := h.requireUnique (some id) a b d
  simp only [Option.map_some] at hunique
  simp only [Graph.retypedEdge]
  rw [h.requireEdge]
  refine outcomeImage_bind fun e => ?_
  dsimp only [Likeness.edge]
  rw [hretype, hunique]
  exact outcomeImage_bind fun _ => rfl

end Alike

theorem removeNode_simulates (h : L.Alike g g') (key : κ) :
    L.Simulates id (removeNode R key) (removeNode R' (L.key key)) g g' := by
  have hkey : L.key key ∈ g'.keys R' ↔ key ∈ g.keys R := by
    rw [h.keys, List.mem_map_of_injective L.key_injective]
  rw [Simulates, Stateful.Simulates, removeNode_run, removeNode_run, L.nodes_eq, L.edges_eq]
  by_cases hmem : key ∈ g.keys R
  · rw [if_pos hmem, if_pos (hkey.mpr hmem)]
    exact .ok true (((h.withoutNode key).withoutEdgesAt key).touch [R.nodes, R.edges])
  · rw [if_neg hmem, if_neg (mt hkey.mp hmem)]
    exact .ok false h

theorem addEdge_simulates (h : L.Alike g g') (source target : Option κ) (data : ε) :
    L.Simulates L.labels.record (addEdge R source target data)
      (addEdge R' (source.map L.key) (target.map L.key) (L.data data)) g g' := by
  rw [Simulates, Stateful.Simulates, addEdge_run, addEdge_run, h.newEnds, h.nextId, L.edges_eq]
  cases g.newEnds R source target data with
  | ok ends => exact .ok _ ((h.countId.withEdge _).touch [R.edges])
  | error e => exact .error e h

theorem retarget_simulates (h : L.Alike g g') (edge : Id) (source target : κ) :
    L.Simulates id (retarget R edge source target)
      (retarget R' (L.labels.record edge) (L.key source) (L.key target)) g g' := by
  rw [Simulates, Stateful.Simulates, retarget_run, retarget_run, h.movedEdge, L.edges_eq]
  cases g.movedEdge R edge source target with
  | ok moved => exact .ok () ((h.replaceEdge moved).touch [R.edges])
  | error e => exact .error e h

theorem retypeEdge_simulates (h : L.Alike g g') (edge : Id) {retype : ε → ε} {retype' : ε' → ε'}
    (hretype : ∀ d, retype' (L.data d) = L.data (retype d)) :
    L.Simulates id (retypeEdge R edge retype) (retypeEdge R' (L.labels.record edge) retype')
      g g' := by
  rw [Simulates, Stateful.Simulates, retypeEdge_run, retypeEdge_run, h.retypedEdge edge hretype,
    L.edges_eq]
  cases g.retypedEdge R edge retype with
  | ok retyped => exact .ok () ((h.replaceEdge retyped).touch [R.edges])
  | error e => exact .error e h

omit [DecidableEq κ] [DecidableEq κ'] in
/-- A revision of a record, if the image of the record is revised alike. -/
theorem reviseNode_simulates {R : Rules Id ν ε} {R' : Rules Id ν' ε'} {L : Likeness R R'}
    {g : Graph Id ν ε} {g' : Graph Id ν' ε'} (h : L.Alike g g') (hkey : L.key = L.labels.record)
    (node : Id) (touched : Collection) {answer : α → α'} {revise : ν → Except Rejection (α × ν)}
    {revise' : ν' → Except Rejection (α' × ν')}
    (hrevise : ∀ n, revise' (L.node n) = L.outcome (Prod.map answer L.node) (revise n)) :
    L.Simulates answer (reviseNode R node touched revise)
      (reviseNode R' (L.labels.record node) (L.labels.collection touched) revise') g g' := by
  have hrequire : g'.requireNode R' (L.labels.record node) =
      L.outcome L.node (g.requireNode R node) := by
    rw [requireNode, requireNode, ← hkey, h.findNode?, hkey, L.nodes_eq]
    cases g.findNode? R node <;> rfl
  have hrevised : g'.revisedNode R' (L.labels.record node) revise' =
      L.outcome (Prod.map answer L.node) (g.revisedNode R node revise) := by
    rw [revisedNode, revisedNode, hrequire]
    exact outcomeImage_bind hrevise
  rw [Simulates, Stateful.Simulates, reviseNode_run, reviseNode_run, hrevised]
  cases g.revisedNode R node revise with
  | ok revision => exact .ok _ ((h.replaceNode _).touch [touched])
  | error e => exact .error e h

end Likeness

end UmlDiagrams
