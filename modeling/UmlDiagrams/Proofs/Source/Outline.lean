import UmlDiagrams.Proofs.Source.Lines
import UmlDiagrams.Proofs.Source.Resolves
import UmlDiagrams.Proofs.Text.Tokens
/-!
# Graphs read off their source

In a readable layout the parts of a line can be told apart. As names resolve, the lines then tell
which nodes the edges join.
-/

namespace UmlDiagrams

open Text

variable {κ ν ε α β ν' ε' : Type}

/-- What the source shows of a graph. The ends of an edge are positions of nodes. -/
structure Outline (ν ε : Type) where
  nodes : List ν
  edges : List (Nat × ε × Nat)
deriving DecidableEq, Repr

namespace Graph

variable [DecidableEq κ]

def position (R : Rules κ ν ε) (g : Graph κ ν ε) (key : κ) : Nat :=
  (g.keys R).idxOf key

/-- The outline with what `node` and `edge` tell of nodes and of the data of edges. -/
def outline (R : Rules κ ν ε) (node : ν → ν') (edge : ε → ε') (g : Graph κ ν ε) :
    Outline ν' ε' where
  nodes := g.nodes.map node
  edges := g.edges.map fun e => (g.position R e.source, edge e.data, g.position R e.target)

end Graph

/-- A layout in which the parts of a line have ends. -/
structure Layout.Readable (L : Layout ν ε) : Prop where
  token : IsToken L.token
  opening : ∀ n, OneLine (L.opening n)
  closing : OneLine L.closing
  symbol : ∀ d, OneWord (L.symbol d)
  suffix : ∀ d, OneLine (L.suffix d) ∧ Breaks (L.suffix d)

namespace Layout

variable {L : Layout ν ε}

private theorem declaration_ne_empty (hL : L.Readable) (n : ν) : L.declaration n ≠ "" := by
  intro h
  rw [declaration, String.append_eq_empty_iff, String.append_eq_empty_iff] at h
  exact hL.token.filled n h.1.2

private theorem oneLine_declaration (hL : L.Readable) (n : ν) : OneLine (L.declaration n) := by
  simp [declaration, hL.opening n, hL.token.oneLine n, hL.closing]

theorem oneLine_line (hL : L.Readable) (m : ν) (d : ε) (n : ν) : OneLine (L.line m d n) := by
  simp +decide [line, edgeLine, hL.token.oneLine m, hL.token.oneLine n, (hL.symbol d).1,
    (hL.suffix d).1]

theorem line_inj (hL : L.Readable) {m n m' n' : ν} {d d' : ε} (h : L.line m d n = L.line m' d' n') :
    L.token m = L.token m' ∧ L.token n = L.token n' ∧ L.symbol d = L.symbol d' ∧
      L.suffix d = L.suffix d' := by
  have hspace : ∀ s, Breaks (" " ++ s) := breaks_append (by decide) (by decide)
  simp only [line, edgeLine, String.append_assoc] at h
  obtain ⟨hsource, h⟩ := hL.token.ends (hspace _) (hspace _) h
  rw [String.append_right_inj] at h
  obtain ⟨hsymbol, h⟩ := (hL.symbol d).append_inj (hL.symbol d') h
  obtain ⟨htarget, hsuffix⟩ := hL.token.ends (hL.suffix d).2 (hL.suffix d').2 h
  exact ⟨hsource, htarget, hsymbol, hsuffix⟩

end Layout

/-- Lists that are related to the same list agree in what the relations determine. -/
theorem map_eq_map_of_forall₂ {γ : Type} {P : α → γ → Prop} {Q : β → γ → Prop} {f : α → ν}
    {f' : β → ν} (hPQ : ∀ x y z, P x z → Q y z → f x = f' y) {l : List α} {m : List β} {r : List γ}
    (hl : List.Forall₂ P l r) (hm : List.Forall₂ Q m r) : l.map f = m.map f' := by
  induction hl generalizing m with
  | nil =>
    cases hm
    rfl
  | cons hx _ ih =>
    cases hm with
    | cons hy hm => rw [List.map_cons, List.map_cons, hPQ _ _ _ hx hy, ih hm]

private theorem exists_of_forall₂ {P : α → β → Prop} {l : List α} {r : List β}
    (h : List.Forall₂ P l r) : ∀ y ∈ r, ∃ x, P x y := by
  induction h with
  | nil => simp
  | cons hx _ ih => exact List.forall_mem_cons.mpr ⟨⟨_, hx⟩, ih⟩

theorem OnlyAt.unique {tokens : List String} {i j : Nat} {token : String}
    (hi : OnlyAt tokens i token) (hj : OnlyAt tokens j token) : i = j :=
  (hj i).mp ((hi i).mpr rfl)

theorem idxOf_of_getElem? [DecidableEq α] {l : List α} (hl : l.Nodup) {i : Nat} {x : α}
    (h : l[i]? = some x) : l.idxOf x = i := by
  obtain ⟨hlt, rfl⟩ := List.getElem?_eq_some_iff.mp h
  exact hl.idxOf_getElem i hlt

namespace Graph

variable {R : Rules κ ν ε} {L : Layout ν ε} {g g' : Graph κ ν ε} {b b' : Body}

private theorem Resolves.readable (h : g.Resolves R L b) (hL : L.Readable)
    (hopening : b.opening = []) (hrest : ∀ block ∈ b.blocks, ∀ l ∈ block.tail, OneLine l ∧ l ≠ "") :
    b.Readable := by
  have hblocks : ∀ l ∈ b.blocks.flatten, OneLine l ∧ l ≠ "" := by
    intro l hl
    obtain ⟨block, hblock, hl⟩ := List.mem_flatten.mp hl
    obtain ⟨n, hn⟩ := exists_of_forall₂ h.declared block hblock
    rw [← List.cons_head?_tail hn, List.mem_cons] at hl
    rcases hl with rfl | hl
    · exact ⟨Layout.oneLine_declaration hL n, Layout.declaration_ne_empty hL n⟩
    · exact hrest block hblock l hl
  refine ⟨?_, fun l hl => (hblocks l hl).1, ?_, fun hl => (hblocks "" hl).2 rfl⟩
  · rw [hopening]
    exact List.forall_mem_nil _
  · intro l hl
    obtain ⟨e, m, n, -, -, rfl⟩ := exists_of_forall₂ h.resolved l hl
    exact Layout.oneLine_line hL m e.data n

variable [DecidableEq κ]

private theorem Declares.onlyAt (hkeys : (g.keys R).Nodup) {key : κ} {n : ν}
    (h : g.Declares R L key n) :
    OnlyAt (g.nodes.map L.token) (g.position R key) (L.token n) := by
  obtain ⟨rfl, i, hi, honly⟩ := h
  have hkey : (g.keys R)[i]? = some (R.key n) := by
    rw [keys, List.getElem?_map, hi]
    rfl
  rw [position, idxOf_of_getElem? hkeys hkey]
  exact honly

private theorem Declares.position_eq (hg : (g.keys R).Nodup) (hg' : (g'.keys R).Nodup)
    (htokens : g.nodes.map L.token = g'.nodes.map L.token) {k k' : κ} {n n' : ν}
    (h : g.Declares R L k n) (h' : g'.Declares R L k' n') (hn : L.token n = L.token n') :
    g.position R k = g'.position R k' := by
  have hat := h.onlyAt hg
  rw [htokens, hn] at hat
  exact hat.unique (h'.onlyAt hg')

/-- Where the tokens and the lines of the edges agree, the edges join the same positions and agree
in what a symbol and a suffix tell. -/
private theorem Resolves.edges_eq {edge : ε → ε'} (hL : L.Readable)
    (hedge : ∀ d d', L.symbol d = L.symbol d' → L.suffix d = L.suffix d' → edge d = edge d')
    (hg : (g.keys R).Nodup) (hg' : (g'.keys R).Nodup) (h : g.Resolves R L b)
    (h' : g'.Resolves R L b') (htokens : g.nodes.map L.token = g'.nodes.map L.token)
    (hlines : b.edges = b'.edges) (node : ν → ν') :
    (g.outline R node edge).edges = (g'.outline R node edge).edges := by
  refine map_eq_map_of_forall₂ ?_ h.resolved (hlines ▸ h'.resolved)
  rintro e e' line ⟨m, n, hm, hn, rfl⟩ ⟨m', n', hm', hn', hline⟩
  obtain ⟨hsource, htarget, hsymbol, hsuffix⟩ := Layout.line_inj hL hline
  rw [hm.position_eq hg hg' htokens hm' hsource, hn.position_eq hg hg' htokens hn' htarget,
    hedge _ _ hsymbol hsuffix]

end Graph

def Separable (block : ν → List String) : Prop :=
  ∀ l m : List ν, (l.map block).flatten = (m.map block).flatten → l.map block = m.map block

theorem flatten_singletons (line : ν → String) (l : List ν) :
    (l.map fun n => [line n]).flatten = l.map line := by
  rw [← List.flatMap_def]
  exact List.flatMap_pure_eq_map line l

theorem separable_singleton (line : ν → String) : Separable fun n => [line n] := by
  intro l m h
  rw [flatten_singletons, flatten_singletons] at h
  have hmap := congrArg (List.map fun l => [l]) h
  rwa [List.map_map, List.map_map] at hmap

theorem separable_of_last {inner : ν → List String} {last : String} (h : ∀ n, last ∉ inner n) :
    Separable fun n => inner n ++ [last] := by
  intro l m hlm
  have hflatten (l : List ν) : (l.map fun n => inner n ++ [last]).flatten =
      (l.map inner).flatMap fun b => b ++ [last] := by
    rw [List.flatMap_map, List.flatMap_def]
  have hinner (l : List ν) : ∀ b ∈ l.map inner, last ∉ b := by
    intro b hb
    obtain ⟨n, -, rfl⟩ := List.mem_map.mp hb
    exact h n
  rw [hflatten, hflatten] at hlm
  have hlists := flatMap_marked_inj (hinner l) (hinner m) hlm
  have hmap := congrArg (List.map fun b => b ++ [last]) hlists
  rwa [List.map_map, List.map_map] at hmap

theorem map_eq_map_of_imp {f : α → β} {v : α → ν} (h : ∀ x y, f x = f y → v x = v y) {l m : List α}
    (hlm : l.map f = m.map f) : l.map v = m.map v := by
  have hl : List.Forall₂ (fun x z => f x = z) l (l.map f) := forall₂_map fun _ _ => rfl
  have hm : List.Forall₂ (fun x z => f x = z) m (l.map f) := hlm ▸ forall₂_map fun _ _ => rfl
  exact map_eq_map_of_forall₂ (fun x y z hx hy => h x y (hx.trans hy.symm)) hl hm

/-- What `node` and `edge` tell can be read off blocks of this form and lines of this layout. -/
structure Layout.Shows (L : Layout ν ε) (block : ν → List String) (node : ν → ν')
    (edge : ε → ε') : Prop where
  readable : L.Readable
  rest : ∀ n, ∀ l ∈ (block n).tail, OneLine l ∧ l ≠ ""
  separable : Separable block
  node : ∀ m n, block m = block n → L.token m = L.token n ∧ node m = node n
  edge : ∀ d d', L.symbol d = L.symbol d' → L.suffix d = L.suffix d' → edge d = edge d'

namespace Graph

/-- `b` is how the graph is written. -/
structure Written (R : Rules κ ν ε) (L : Layout ν ε) (block : ν → List String) (g : Graph κ ν ε)
    (b : Body) : Prop where
  keys : (g.keys R).Nodup
  resolves : g.Resolves R L b
  opening : b.opening = []
  blocks : b.blocks = g.nodes.map block

variable {R : Rules κ ν ε} {L : Layout ν ε} {block : ν → List String} {node : ν → ν'}
  {edge : ε → ε'} {g g' : Graph κ ν ε} {b b' : Body}

theorem Written.readable (hL : L.Shows block node edge) (h : g.Written R L block b) :
    b.Readable := by
  refine h.resolves.readable hL.readable h.opening fun lines hlines => ?_
  rw [h.blocks] at hlines
  obtain ⟨n, -, rfl⟩ := List.mem_map.mp hlines
  exact hL.rest n

/-- Graphs that are written with the same lines have the same outline. -/
theorem Written.outline_eq [DecidableEq κ] (hL : L.Shows block node edge)
    (h : g.Written R L block b) (h' : g'.Written R L block b') (hlines : b.lines = b'.lines) :
    g.outline R node edge = g'.outline R node edge := by
  have hlen : b.opening.length = b'.opening.length := by rw [h.opening, h'.opening]
  obtain ⟨-, hflatten, hedges⟩ := Body.lines_inj (h.readable hL) (h'.readable hL) hlen hlines
  rw [h.blocks, h'.blocks] at hflatten
  have hblocks := hL.separable g.nodes g'.nodes hflatten
  have htokens := map_eq_map_of_imp (fun m n hmn => (hL.node m n hmn).1) hblocks
  have hnodes := map_eq_map_of_imp (fun m n hmn => (hL.node m n hmn).2) hblocks
  have hjoined := h.resolves.edges_eq hL.readable hL.edge h.keys h'.keys h'.resolves htokens hedges
    node
  rw [outline, outline, Outline.mk.injEq]
  exact ⟨hnodes, hjoined⟩

end Graph

end UmlDiagrams
