import UmlDiagrams.Proofs.Graph.Effects
import UmlDiagrams.Proofs.Source.Sheet
/-!
# Strokes

An edit draws one stroke in the sheet of its diagram: it adds, removes or rewrites one block or one
line. Only a removed node takes more with it, the lines of the edges that show its token.
-/

namespace UmlDiagrams

open Text

/-- What an edit does to the sheet of its diagram. -/
inductive Stroke where
  /-- A block with these lines comes after all others. -/
  | addNode (lines : List String)
  /-- An actor comes before the use cases. -/
  | addActor (name : String)
  | removeNode (node : Reference)
  | changeNode (node : Reference)
  | addEdge (symbol suffix : String)
  | removeEdge (id : Id)
  | changeEdge (id : Id)
  | clear
deriving DecidableEq, Repr

def SheetEdge.touches (token : String) (e : SheetEdge) : Bool :=
  e.source = token || e.target = token

/-- The stroke makes the second sheet of the first. What is not in the stroke stays as it is, in the
same order. -/
inductive Stroke.Alters : Stroke → Sheet → Sheet → Prop where
  | addNode {opening nodes edges} (node : SheetNode) :
    Alters (.addNode node.lines) ⟨opening, nodes, edges⟩ ⟨opening, nodes ++ [node], edges⟩
  | addActor {opening edges} (actors useCases : List String) (name : String) :
    Alters (.addActor name)
      ⟨opening, actors.map UseCaseDiagram.actorNode ++ useCases.map UseCaseDiagram.useCaseNode,
        edges⟩
      ⟨opening, (actors ++ [name]).map UseCaseDiagram.actorNode ++
        useCases.map UseCaseDiagram.useCaseNode, edges⟩
  | removeNode {opening edges} (front : List SheetNode) (node : SheetNode)
      (back : List SheetNode) :
    Alters (.removeNode node.reference) ⟨opening, front ++ node :: back, edges⟩
      ⟨opening, front ++ back, edges.filter fun e => !e.touches node.token⟩
  | changeNode {opening edges} (front : List SheetNode) (node : SheetNode) (lines : List String)
      (back : List SheetNode) :
    Alters (.changeNode node.reference) ⟨opening, front ++ node :: back, edges⟩
      ⟨opening, front ++ { node with lines } :: back, edges⟩
  | addEdge {opening nodes edges} (edge : SheetEdge) :
    Alters (.addEdge edge.symbol edge.suffix) ⟨opening, nodes, edges⟩
      ⟨opening, nodes, edges ++ [edge]⟩
  | removeEdge {opening nodes} (front : List SheetEdge) (edge : SheetEdge)
      (back : List SheetEdge) :
    Alters (.removeEdge edge.id) ⟨opening, nodes, front ++ edge :: back⟩
      ⟨opening, nodes, front ++ back⟩
  | changeEdge {opening nodes} (front : List SheetEdge) (edge new : SheetEdge)
      (back : List SheetEdge) (h : new.id = edge.id) :
    Alters (.changeEdge edge.id) ⟨opening, nodes, front ++ edge :: back⟩
      ⟨opening, nodes, front ++ new :: back⟩
  | clear {opening nodes edges} :
    Alters .clear ⟨opening, nodes, edges⟩ ⟨opening, [], []⟩

namespace Graph

variable {κ ν ε : Type} [DecidableEq κ] {R : Rules κ ν ε} {L : Layout ν ε}
  {block : ν → List String} {Named : ν → Prop} {g g' : Graph κ ν ε}

/-- Where both graphs have a node with this key and one token, edges at it are written alike. -/
def SharesToken (R : Rules κ ν ε) (L : Layout ν ε) (g g' : Graph κ ν ε) (key : κ) : Prop :=
  ∃ m ∈ g.nodes, ∃ n ∈ g'.nodes, R.key m = key ∧ R.key n = key ∧ L.token n = L.token m

private theorem SharesToken.token_eq {key : κ} (h : SharesToken R L g g' key)
    (hg : (g.keys R).Nodup) (hg' : (g'.keys R).Nodup) : g'.token R L key = g.token R L key := by
  obtain ⟨m, hm, n, hn, rfl, hkey, htoken⟩ := h
  rw [Graph.token_eq hg hm, ← hkey, Graph.token_eq hg' hn, htoken]

omit [DecidableEq κ] in
private theorem sharesToken_of_mem {n : ν} (h : n ∈ g.nodes) (h' : n ∈ g'.nodes) :
    SharesToken R L g g' (R.key n) :=
  ⟨n, h, n, h', rfl, rfl, rfl⟩

private theorem sheetEdges_eq (hg : Sound R Named g) (hg' : Sound R Named g') {nodes : List ν}
    {edges : List (Edge κ ε)}
    (hends : ∀ e ∈ edges, e.source ∈ nodes.map R.key ∧ e.target ∈ nodes.map R.key)
    (hshares : ∀ n ∈ nodes, SharesToken R L g g' (R.key n)) :
    edges.map (g'.sheetEdge R L) = edges.map (g.sheetEdge R L) := by
  rw [← List.forall_mem_map (P := SharesToken R L g g')] at hshares
  apply List.map_congr_left
  intro e he
  obtain ⟨hsource, htarget⟩ := hends e he
  rw [sheetEdge, sheetEdge, (hshares _ hsource).token_eq hg.keys hg'.keys,
    (hshares _ htarget).token_eq hg.keys hg'.keys]

theorem AddedNode.alters {name : String} {build : Id → String → ν} {lines : List String}
    (h : AddedNode R name build g g') (hg : Sound R Named g) (hg' : Sound R Named g')
    (hlines : ∀ id, block (build id (trim name)) = lines) :
    (Stroke.addNode lines).Alters (g.sheet R L block) (g'.sheet R L block) := by
  obtain ⟨text, htext, hresult⟩ := h
  obtain ⟨rfl, -, -⟩ := newName_eq_ok.mp htext
  have hnodes' : g'.nodes = g.nodes ++ [build (g.nextId R) (trim name)] := by
    rw [hresult]
    rfl
  have hedges' : g'.edges = g.edges := by
    rw [hresult]
    rfl
  have hsame := sheetEdges_eq (L := L) hg hg' hg.ends fun n hn =>
    sharesToken_of_mem hn (hnodes' ▸ List.mem_append_left _ hn)
  rw [sheet, sheet, hnodes', hedges', hsame, List.map_append, ← hlines (g.nextId R)]
  exact .addNode (sheetNode R L block (build (g.nextId R) (trim name)))

/-- The token of a removed node stands at exactly the edges that go with the node, as no other node
has this token. -/
theorem RemovedNode.alters {key : κ} (h : RemovedNode R key g g') (hg : Sound R Named g)
    (hg' : Sound R Named g') (hL : L.Faithful R) :
    (Stroke.removeNode (R.reference key)).Alters (g.sheet R L block) (g'.sheet R L block) := by
  obtain ⟨hkey, hresult⟩ := h
  obtain ⟨n, hn, rfl⟩ := List.mem_map.mp hkey
  obtain ⟨front, back, hnodes, hfilter, -⟩ := split_at_key hg.keys hn
  have hnodes' : g'.nodes = front ++ back := by
    rw [hresult]
    exact hfilter
  have hedges' : g'.edges = g.edges.filter fun e =>
      e.source ≠ R.key n && e.target ≠ R.key n := by
    rw [hresult]
    rfl
  have htoken : ∀ k ∈ g.keys R, g.token R L k = L.token n ↔ k = R.key n := by
    intro k hk
    obtain ⟨m, hm, rfl⟩ := List.mem_map.mp hk
    rw [token_eq hg.keys hm]
    constructor
    · intro heq
      rw [eq_of_key_eq (tokens_nodup hg hL) hm hn heq]
    · intro heq
      rw [eq_of_key_eq hg.keys hm hn heq]
  have hends : g'.edges.map (g.sheetEdge R L) =
      (g.edges.map (g.sheetEdge R L)).filter fun e => !e.touches (L.token n) := by
    rw [hedges']
    refine (filter_map_of fun e he => ?_).symm
    obtain ⟨hs, ht⟩ := hg.ends e he
    simp [SheetEdge.touches, sheetEdge, htoken _ hs, htoken _ ht]
  have hstays : ∀ m ∈ g'.nodes, m ∈ g.nodes := by
    intro m hm
    rw [hnodes', List.mem_append] at hm
    rw [hnodes, List.mem_append]
    exact hm.imp_right (List.mem_cons_of_mem n)
  have hsame := sheetEdges_eq (L := L) hg hg' hg'.ends fun m hm =>
    sharesToken_of_mem (hstays m hm) hm
  rw [sheet, sheet, hnodes, hnodes', hsame, hends, List.map_append, List.map_append, List.map_cons]
  exact .removeNode _ (sheetNode R L block n) _

theorem AddedEdge.alters (L : Layout ν ε) (block : ν → List String) {source target : Option κ}
    {data : ε} (h : AddedEdge R source target data g g') :
    (Stroke.addEdge (L.symbol data) (L.suffix data)).Alters (g.sheet R L block)
      (g'.sheet R L block) := by
  obtain ⟨a, b, -, rfl⟩ := h
  have hedges : (touch [R.edges] (withEdge ⟨g.nextId R, a, b, data⟩ g.countId)).sheet R L block =
      ⟨[], g.nodes.map (sheetNode R L block), g.edges.map (g.sheetEdge R L) ++
        [g.sheetEdge R L ⟨g.nextId R, a, b, data⟩]⟩ := by
    rw [sheet, Sheet.mk.injEq]
    exact ⟨rfl, rfl, List.map_append⟩
  rw [hedges]
  exact .addEdge (g.sheetEdge R L ⟨g.nextId R, a, b, data⟩)

theorem RemovedEdge.alters {id : Id} (h : RemovedEdge R id g g') (hg : Sound R Named g) :
    (Stroke.removeEdge id).Alters (g.sheet R L block) (g'.sheet R L block) := by
  obtain ⟨hid, rfl⟩ := h
  obtain ⟨e, he, rfl⟩ := List.mem_map.mp hid
  obtain ⟨front, back, hedges, hfilter, -⟩ := split_at_key hg.edgeIds he
  have hsheet : (touch [R.edges] (withoutEdge e.id g)).sheet R L block =
      ⟨[], g.nodes.map (sheetNode R L block), front.map (g.sheetEdge R L) ++
        back.map (g.sheetEdge R L)⟩ := by
    rw [sheet, Sheet.mk.injEq, ← List.map_append, ← hfilter]
    exact ⟨rfl, rfl, rfl⟩
  rw [hsheet, sheet, hedges, List.map_append, List.map_cons]
  exact .removeEdge _ (g.sheetEdge R L e) _

theorem ChangedEdge.alters {id : Id} (h : ChangedEdge R id g g') (hg : Sound R Named g) :
    (Stroke.changeEdge id).Alters (g.sheet R L block) (g'.sheet R L block) := by
  obtain ⟨old, hold, edge, rfl, hid, rfl⟩ := h
  obtain ⟨front, back, hedges, -, hreplace⟩ := split_at_key hg.edgeIds hold
  have hsheet : (touch [R.edges] (replaceEdge edge g)).sheet R L block =
      ⟨[], g.nodes.map (sheetNode R L block), front.map (g.sheetEdge R L) ++
        g.sheetEdge R L edge :: back.map (g.sheetEdge R L)⟩ := by
    rw [sheet, Sheet.mk.injEq, ← List.map_cons, ← List.map_append, ← hreplace edge hid]
    exact ⟨rfl, rfl, rfl⟩
  rw [hsheet, sheet, hedges, List.map_append, List.map_cons]
  exact .changeEdge _ (g.sheetEdge R L old) (g.sheetEdge R L edge) _ hid

theorem ChangedNode.alters {R : Rules Id ν ε} {g g' : Graph Id ν ε} {id : Id} {touched : Collection}
    {Keeps : ν → ν → Prop} (h : ChangedNode R id touched Keeps g g') (hg : Sound R Named g)
    (hg' : Sound R Named g')
    (hKeeps : ∀ old new, Keeps old new → R.key new = R.key old ∧ L.token new = L.token old) :
    (Stroke.changeNode (R.reference id)).Alters (g.sheet R L block) (g'.sheet R L block) := by
  obtain ⟨old, hold, node, rfl, hnode, hresult⟩ := h
  obtain ⟨hkey, htoken⟩ := hKeeps old node hnode
  obtain ⟨front, back, hnodes, -, hreplace⟩ := split_at_key hg.keys hold
  have hnodes' : g'.nodes = front ++ node :: back := by
    rw [hresult]
    exact hreplace node hkey
  have hedges' : g'.edges = g.edges := by
    rw [hresult]
    rfl
  have hsame : g.edges.map (g'.sheetEdge R L) = g.edges.map (g.sheetEdge R L) := by
    refine sheetEdges_eq hg hg' hg.ends fun m hm => ?_
    have hplace := hm
    rw [hnodes, List.mem_append, List.mem_cons] at hplace
    rcases hplace with hfront | rfl | hback
    · exact sharesToken_of_mem hm (hnodes' ▸ List.mem_append_left _ hfront)
    · exact ⟨m, hm, node, hnodes' ▸ List.mem_append_right _ List.mem_cons_self, rfl, hkey, htoken⟩
    · exact sharesToken_of_mem hm
        (hnodes' ▸ List.mem_append_right _ (List.mem_cons_of_mem _ hback))
  have hrewritten : sheetNode R L block node =
      { sheetNode R L block old with lines := block node } := by
    rw [sheetNode, hkey, htoken]
    rfl
  rw [sheet, sheet, hnodes, hnodes', hedges', hsame, List.map_append, List.map_append,
    List.map_cons, List.map_cons, hrewritten]
  exact .changeNode _ (sheetNode R L block old) _ _

end Graph

end UmlDiagrams
