import Mathlib.Data.List.Forall2
import UmlDiagrams.Proofs.Store.Sound
import UmlDiagrams.Proofs.Text.Printed
import UmlDiagrams.Source
/-!
# Names in the diagram source

A node is declared by a token, and the line of an edge refers to its ends by their tokens. The source
of a reachable store resolves: every token is declared once, and the line of an edge, which is never
left out, shows the tokens of the nodes that the edge joins.
-/

namespace UmlDiagrams

variable {κ ν ε α β : Type}

/-- How the source writes a diagram: the tokens of its nodes, and what stands around them. -/
structure Layout (ν ε : Type) where
  token : ν → String
  opening : ν → String
  closing : String
  symbol : ε → String
  suffix : ε → String

namespace Layout

def declaration (L : Layout ν ε) (n : ν) : String :=
  L.opening n ++ L.token n ++ L.closing

def line (L : Layout ν ε) (source : ν) (data : ε) (target : ν) : String :=
  edgeLine (L.token source) (L.symbol data) (L.token target) (L.suffix data)

/-- Nodes with the same token are nodes with names that print alike. -/
def Faithful (L : Layout ν ε) (R : Rules κ ν ε) : Prop :=
  ∀ m n, L.token m = L.token n → printKey R.nodes (R.name m) = printKey R.nodes (R.name n)

end Layout

def OnlyAt (tokens : List String) (i : Nat) (token : String) : Prop :=
  ∀ j, tokens[j]? = some token ↔ j = i

theorem onlyAt_of_nodup {tokens : List String} (h : tokens.Nodup) {i : Nat} {token : String}
    (hi : tokens[i]? = some token) : OnlyAt tokens i token := by
  intro j
  constructor
  · intro hj
    have hlt := (List.getElem?_eq_some_iff.mp hj).1
    exact (List.getElem?_inj hlt h).mp (hj.trans hi.symm)
  · intro heq
    subst heq
    exact hi

private theorem forall₂_filterMap {P : α → β → Prop} {f : α → Option β} {l : List α}
    (h : ∀ x ∈ l, ∃ y, f x = some y ∧ P x y) : List.Forall₂ P l (l.filterMap f) := by
  induction l with
  | nil => exact .nil
  | cons x l ih =>
    obtain ⟨y, hy, hp⟩ := h x List.mem_cons_self
    rw [List.filterMap_cons, hy]
    exact .cons hp (ih fun z hz => h z (List.mem_cons_of_mem _ hz))

theorem forall₂_map {P : α → β → Prop} {f : α → β} {l : List α} (h : ∀ x ∈ l, P x (f x)) :
    List.Forall₂ P l (l.map f) := by
  rw [List.forall₂_map_right_iff, List.forall₂_same]
  exact h

namespace Graph

/-- The node known by `key` is `n`, and it is the only one with its token. -/
def Declares (R : Rules κ ν ε) (L : Layout ν ε) (g : Graph κ ν ε) (key : κ) (n : ν) : Prop :=
  R.key n = key ∧ ∃ i : Nat, g.nodes[i]? = some n ∧ OnlyAt (g.nodes.map L.token) i (L.token n)

/-- In `b`, the nodes of the graph are declared by distinct tokens, and each edge has a line between
the tokens of its ends. -/
structure Resolves (R : Rules κ ν ε) (L : Layout ν ε) (g : Graph κ ν ε) (b : Body) : Prop where
  declared : List.Forall₂ (fun n block => block.head? = some (L.declaration n)) g.nodes b.blocks
  distinct : (g.nodes.map L.token).Nodup
  resolved : List.Forall₂
    (fun e line => ∃ m n, g.Declares R L e.source m ∧ g.Declares R L e.target n ∧
      line = L.line m e.data n) g.edges b.edges

variable {R : Rules κ ν ε} {L : Layout ν ε} {Named : ν → Prop} {g : Graph κ ν ε} {b : Body}

theorem tokens_nodup (h : Sound R Named g) (hL : L.Faithful R) :
    (g.nodes.map L.token).Nodup := by
  have hp : g.nodes.Pairwise fun m n =>
      printKey R.nodes (R.name m) ≠ printKey R.nodes (R.name n) := List.pairwise_map.mp h.printKeys
  exact List.pairwise_map.mpr (hp.imp fun hne heq => hne (hL _ _ heq))

private theorem declares_of_mem (h : Sound R Named g) (hL : L.Faithful R) {n : ν}
    (hn : n ∈ g.nodes) :
    g.Declares R L (R.key n) n := by
  obtain ⟨i, hi⟩ := List.getElem?_of_mem hn
  have htoken : (g.nodes.map L.token)[i]? = some (L.token n) := by
    rw [List.getElem?_map, hi]
    rfl
  exact ⟨rfl, i, hi, onlyAt_of_nodup (tokens_nodup h hL) htoken⟩

theorem names_resolve {kind : Kind} {nodes edges : Collection} {L : Layout String ε}
    {g : Graph String String ε} (h : Sound (.byName kind nodes edges) Text.IsName g)
    (hL : L.Faithful (.byName kind nodes edges : Rules String String ε))
    (hblocks : b.blocks = g.nodes.map fun n => [L.declaration n])
    (hedges : b.edges = g.edges.map fun e => L.line e.source e.data e.target) :
    g.Resolves (.byName kind nodes edges) L b := by
  refine ⟨?_, tokens_nodup h hL, ?_⟩
  · rw [hblocks]
    exact forall₂_map fun n _ => rfl
  · rw [hedges]
    refine forall₂_map fun e he => ?_
    obtain ⟨hs, ht⟩ := h.ends e he
    have hs : e.source ∈ g.nodes := by
      simpa [Graph.keys, Rules.byName] using hs
    have ht : e.target ∈ g.nodes := by
      simpa [Graph.keys, Rules.byName] using ht
    exact ⟨e.source, e.target, declares_of_mem h hL hs, declares_of_mem h hL ht, rfl⟩

theorem findNode?_of_mem [DecidableEq κ] {key : κ} (h : key ∈ g.keys R) :
    ∃ n ∈ g.nodes, R.key n = key ∧ g.findNode? R key = some n := by
  obtain ⟨m, hm, rfl⟩ := List.mem_map.mp h
  cases hf : g.findNode? R (R.key m) with
  | some n =>
    exact ⟨n, List.mem_of_find?_eq_some hf, by simpa using List.find?_some hf, rfl⟩
  | none =>
    have hne := List.find?_eq_none.mp hf m hm
    simp at hne

/-- A graph of records, where an edge holds identifiers that are looked up. No line is left out,
because the ends of an edge exist. -/
theorem records_resolve {R : Rules Id ν ε} {Named : ν → Prop} {g : Graph Id ν ε} {L : Layout ν ε}
    (h : Sound R Named g) (hL : L.Faithful R) {block : ν → List String}
    (hblock : ∀ n, (block n).head? = some (L.declaration n)) (label : ε → String)
    (htoken : ∀ n, L.token n = Text.quoted (R.name n))
    (hsuffix : ∀ d, L.suffix d = labelSuffix (label d)) (hblocks : b.blocks = g.nodes.map block)
    (hedges : b.edges = g.edges.filterMap (recordEdgeLine? R g L.symbol label)) :
    g.Resolves R L b := by
  refine ⟨?_, tokens_nodup h hL, ?_⟩
  · rw [hblocks]
    exact forall₂_map fun n _ => hblock n
  · rw [hedges]
    refine forall₂_filterMap fun e he => ?_
    obtain ⟨hs, ht⟩ := h.ends e he
    obtain ⟨m, hm, hmkey, hmfind⟩ := findNode?_of_mem hs
    obtain ⟨n, hn, hnkey, hnfind⟩ := findNode?_of_mem ht
    have hline : recordEdgeLine? R g L.symbol label e = some (L.line m e.data n) := by
      rw [recordEdgeLine?, hmfind, hnfind, Layout.line, htoken, htoken, hsuffix]
      rfl
    refine ⟨L.line m e.data n, hline, m, n, ?_, ?_, rfl⟩
    · exact hmkey ▸ declares_of_mem h hL hm
    · exact hnkey ▸ declares_of_mem h hL hn

end Graph

end UmlDiagrams
