import UmlDiagrams.Proofs.Graph.Keeps
import UmlDiagrams.Proofs.NewNames
/-!
# Graphs as lists of names

A graph is listed by the names of its nodes and by edges whose ends are names. Adding listed nodes
and then listed edges to an empty graph succeeds exactly if the list fits: the names can stand beside
each other, the ends are among them, no edge repeats another, and there are two nodes for the open
ends.
-/

namespace UmlDiagrams

open Stateful

variable {κ ν ε α β : Type}

/-- An edge between named nodes. An end may be left open. -/
structure EdgeSpec (ε : Type) where
  source : Option String
  target : Option String
  data : ε

namespace EdgeSpec

def completed (names : List String) (spec : EdgeSpec ε) : EdgeSpec ε where
  source := spec.source.or names[0]?
  target := spec.target.or names[1]?
  data := spec.data

structure Known (names : List String) (spec : EdgeSpec ε) : Prop where
  source : ∀ n, spec.source = some n → n ∈ names
  target : ∀ n, spec.target = some n → n ∈ names

end EdgeSpec

namespace Rules

def Repeats (R : Rules κ ν ε) (a b : EdgeSpec ε) : Prop :=
  a.source = b.source ∧ a.target = b.target ∧ R.clash a.data b.data

structure Fits (R : Rules κ ν ε) (names : List String) (edges : List (EdgeSpec ε)) : Prop where
  nonblank : ∀ n ∈ names, n ≠ ""
  distinct : (names.map (printKey R.nodes)).Nodup
  known : ∀ e ∈ edges, e.Known names
  unique : (edges.map (·.completed names)).Pairwise fun a b => ¬ R.Repeats a b

end Rules

def EnoughNodes (names : List String) (edges : List β) : Prop :=
  edges ≠ [] → 2 ≤ names.length

structure LacksNodes (nodes : Collection) (names : List String) (edges : List β) (e : Rejection) :
    Prop where
  wanted : edges ≠ []
  few : names.length < 2
  reason : e = .notEnoughNodes nodes 2 names.length

namespace Graph

def names (R : Rules κ ν ε) (g : Graph κ ν ε) : List String :=
  g.nodes.map R.name

variable {R : Rules κ ν ε} {Named : ν → Prop} {g : Graph κ ν ε}

theorem printKeys_names (h : Sound R Named g) :
    ((g.names R).map (printKey R.nodes)).Nodup := by
  rw [names, List.map_map]
  exact h.printKeys

private theorem names_nodup (h : Sound R Named g) : (g.names R).Nodup :=
  List.Nodup.of_map _ (printKeys_names h)

theorem addNode_decides (hg : Sound R Named g) {build : Id → String → ν}
    (hb : R.Builds Named build) (name : String) :
    Decides (addNode R name build) g (NewAmong R.nodes (g.names R) [Text.trim name])
      (fun g' => Sound R Named g' ∧ g'.edges = g.edges ∧
        g'.nodes = g.nodes ++ [build (g.nextId R) (Text.trim name)]) fun _ => True := by
  have hsound := addNode_keeps hb name g hg
  have hrun := addNode_run R g name build
  have hnew (text : String) : newName R.nodes (g.names R) name = .ok text ↔
      text = Text.trim name ∧ NewAmong R.nodes (g.names R) [text] :=
    newName_among (printKeys_names hg)
  cases h : newName R.nodes (g.nodes.map R.name) name with
  | ok text =>
    obtain ⟨rfl, hamong⟩ := (hnew text).mp h
    rw [h] at hrun
    rw [after, hrun] at hsound
    exact decides_of_run_ok hrun hamong ⟨hsound, rfl, rfl⟩
  | error e =>
    rw [h] at hrun
    refine decides_of_run_error hrun (fun hamong => ?_) trivial
    have hok := (hnew _).mpr ⟨rfl, hamong⟩
    rw [names, h] at hok
    cases hok

variable [DecidableEq κ]

def endName (R : Rules κ ν ε) (g : Graph κ ν ε) (key : κ) : Option String :=
  (g.findNode? R key).map R.name

def edgeSpecs (R : Rules κ ν ε) (g : Graph κ ν ε) : List (EdgeSpec ε) :=
  g.edges.map fun e => ⟨g.endName R e.source, g.endName R e.target, e.data⟩

theorem findNode?_key (h : Sound R Named g) {n : ν} (hn : n ∈ g.nodes) :
    g.findNode? R (R.key n) = some n :=
  find?_key h.keys hn

theorem endName_key (h : Sound R Named g) {n : ν} (hn : n ∈ g.nodes) :
    g.endName R (R.key n) = some (R.name n) := by
  rw [endName, findNode?_key h hn]
  rfl

theorem endName_inj (h : Sound R Named g) {k k' : κ} (hk : k ∈ g.keys R) (hk' : k' ∈ g.keys R)
    (heq : g.endName R k = g.endName R k') : k = k' := by
  obtain ⟨m, hm, rfl⟩ := List.mem_map.mp hk
  obtain ⟨n, hn, rfl⟩ := List.mem_map.mp hk'
  rw [endName_key h hm, endName_key h hn] at heq
  rw [eq_of_key_eq (f := R.name) (names_nodup h) hm hn (Option.some.inj heq)]

/-- `key` is the end that an edge is given when its end is `named`; both may be open. -/
def Meant (R : Rules κ ν ε) (g : Graph κ ν ε) (named : Option String) (key : Option κ) : Prop :=
  (named = none ∧ key = none) ∨ ∃ n ∈ g.nodes, named = some (R.name n) ∧ key = some (R.key n)

private theorem pickEnd_meant {named : Option String} {key : Option κ} (h : g.Meant R named key)
    (position : Nat) (hp : position < g.nodes.length) :
    ∃ n ∈ g.nodes, pickEnd R.nodes R.reference (g.keys R) key position = .ok (R.key n) ∧
      named.or (g.names R)[position]? = some (R.name n) := by
  rcases h with ⟨rfl, rfl⟩ | ⟨n, hn, rfl, rfl⟩
  · have hget : g.nodes[position]? = some g.nodes[position] := List.getElem?_eq_getElem hp
    refine ⟨g.nodes[position], List.getElem_mem hp, ?_, ?_⟩
    · rw [pickEnd, keys, List.getElem?_map, hget]
      rfl
    · rw [Option.none_or, names, List.getElem?_map, hget]
      rfl
  · have hkey : R.key n ∈ g.keys R := List.mem_map_of_mem hn
    refine ⟨n, hn, ?_, rfl⟩
    rw [pickEnd, if_pos hkey]

private theorem hasDuplicate_iff (h : Sound R Named g) {a b : κ} (ha : a ∈ g.keys R)
    (hb : b ∈ g.keys R) (data : ε) : g.hasDuplicate R none a b data = true ↔
      ∃ e ∈ g.edgeSpecs R, R.Repeats e ⟨g.endName R a, g.endName R b, data⟩ := by
  rw [hasDuplicate, List.any_eq_true]
  constructor
  · intro hdup
    obtain ⟨e, he, hsame⟩ := hdup
    have hsame : (e.source = a ∧ e.target = b) ∧ R.clash e.data data = true := by
      simpa using hsame
    refine ⟨_, List.mem_map_of_mem he, ?_, ?_, hsame.2⟩
    · rw [hsame.1.1]
    · rw [hsame.1.2]
  · intro hrepeats
    obtain ⟨_, hmem, hs, ht, hd⟩ := hrepeats
    obtain ⟨e, he, rfl⟩ := List.mem_map.mp hmem
    have hends := h.ends e he
    have hs : e.source = a := endName_inj h hends.1 ha hs
    have ht : e.target = b := endName_inj h hends.2 hb ht
    have hd : R.clash e.data data = true := hd
    exact ⟨e, he, by simp [hs, ht, hd]⟩

theorem requireNodes_eq {c : Collection} {needed found : Nat} (h : needed ≤ found) :
    requireNodes c needed found = .ok () := by
  rw [requireNodes, if_neg (Nat.not_lt.mpr h)]

/-- With two nodes, only a duplicate keeps an edge between meant ends from being added. -/
theorem newEnds_meant (h : Sound R Named g) {spec : EdgeSpec ε} {source target : Option κ}
    (hs : g.Meant R spec.source source) (ht : g.Meant R spec.target target)
    (hlen : 2 ≤ g.nodes.length) :
    ∃ a ∈ g.keys R, ∃ b ∈ g.keys R,
      spec.completed (g.names R) = ⟨g.endName R a, g.endName R b, spec.data⟩ ∧
      g.newEnds R source target spec.data =
        if g.hasDuplicate R none a b spec.data then .error (.duplicateEdge R.edges)
        else .ok (a, b) := by
  obtain ⟨m, hm, hpickm, hnamem⟩ := pickEnd_meant hs 0 (by omega)
  obtain ⟨n, hn, hpickn, hnamen⟩ := pickEnd_meant ht 1 (by omega)
  have hlen' : 2 ≤ (g.keys R).length := by
    rw [keys, List.length_map]
    exact hlen
  refine ⟨R.key m, List.mem_map_of_mem hm, R.key n, List.mem_map_of_mem hn, ?_, ?_⟩
  · rw [EdgeSpec.completed, hnamem, hnamen, endName_key h hm, endName_key h hn]
  · rw [newEnds, requireNodes_eq hlen', hpickm]
    change (pickEnd R.nodes R.reference (g.keys R) target 1 >>= fun b =>
      g.requireUnique R none (R.key m) b spec.data >>= fun _ => pure (R.key m, b)) = _
    rw [hpickn]
    change (g.requireUnique R none (R.key m) (R.key n) spec.data >>= fun _ =>
      pure (R.key m, R.key n)) = _
    rw [requireUnique]
    cases g.hasDuplicate R none (R.key m) (R.key n) spec.data <;> rfl

private theorem newEnds_of_lt {source target : Option κ} {data : ε} (h : (g.names R).length < 2) :
    g.newEnds R source target data = .error (.notEnoughNodes R.nodes 2 (g.names R).length) := by
  have hlen : (g.keys R).length = (g.names R).length := by
    rw [keys, names, List.length_map, List.length_map]
  rw [newEnds, hlen, requireNodes, if_pos h]
  rfl

/-- An edge between meant ends is added if there are two nodes and it repeats no edge. -/
theorem addEdge_decides (hg : Sound R Named g) {spec : EdgeSpec ε} {source target : Option κ}
    (hs : g.Meant R spec.source source) (ht : g.Meant R spec.target target) :
    Decides (addEdge R source target spec.data) g
      (2 ≤ (g.names R).length ∧
        ∀ e ∈ g.edgeSpecs R, ¬ R.Repeats e (spec.completed (g.names R)))
      (fun g' => Sound R Named g' ∧ g'.nodes = g.nodes ∧
        g'.edgeSpecs R = g.edgeSpecs R ++ [spec.completed (g.names R)])
      fun e => (g.names R).length < 2 → e = .notEnoughNodes R.nodes 2 (g.names R).length := by
  have hrun := addEdge_run R g source target spec.data
  have hkeeps : Keeps (Sound R Named) (addEdge R source target spec.data) :=
    addEdge_keeps source target spec.data
  have hsound := hkeeps g hg
  rw [after] at hsound
  by_cases hlen : (g.names R).length < 2
  · rw [newEnds_of_lt hlen] at hrun
    exact decides_of_run_error hrun (fun hc => Nat.not_lt.mpr hc.1 hlen) fun _ => rfl
  · have hlen := Nat.not_lt.mp hlen
    have hnodes : 2 ≤ g.nodes.length := by
      rw [names, List.length_map] at hlen
      exact hlen
    obtain ⟨a, ha, b, hb, hspec, hends⟩ := newEnds_meant hg hs ht hnodes
    have hdup := hasDuplicate_iff hg ha hb spec.data
    rw [← hspec] at hdup
    cases hd : g.hasDuplicate R none a b spec.data with
    | true =>
      rw [hends, hd] at hrun
      obtain ⟨e, he, hrepeats⟩ := hdup.mp hd
      exact decides_of_run_error hrun (fun hc => hc.2 e he hrepeats)
        fun hlt => absurd hlt (Nat.not_lt.mpr hlen)
    | false =>
      rw [hends, hd] at hrun
      rw [hrun] at hsound
      refine decides_of_run_ok hrun ⟨hlen, fun e he hrepeats => ?_⟩ ⟨hsound, rfl, ?_⟩
      · rw [hdup.mpr ⟨e, he, hrepeats⟩] at hd
        cases hd
      · rw [hspec]
        exact List.map_append

section Edges

variable {op : β → Editing (Graph κ ν ε) α} {spec : β → EdgeSpec ε}

/-- How one listed edge is added: its ends have to be known, and then it counts whether there are two
nodes and whether it repeats an edge. -/
def Links (R : Rules κ ν ε) (Named : ν → Prop) (op : β → Editing (Graph κ ν ε) α)
    (spec : β → EdgeSpec ε) : Prop :=
  ∀ g, Sound R Named g → ∀ b, Decides (op b) g
    ((spec b).Known (g.names R) ∧ 2 ≤ (g.names R).length ∧
      ∀ e ∈ g.edgeSpecs R, ¬ R.Repeats e ((spec b).completed (g.names R)))
    (fun g' => Sound R Named g' ∧ g'.nodes = g.nodes ∧
      g'.edgeSpecs R = g.edgeSpecs R ++ [(spec b).completed (g.names R)])
    fun e => (spec b).Known (g.names R) → (g.names R).length < 2 →
      e = .notEnoughNodes R.nodes 2 (g.names R).length

omit [DecidableEq κ] in
private theorem addable_cons_iff {names : List String} {old : List (EdgeSpec ε)} {b : β}
    {bs : List β} :
    (((spec b).Known names ∧ 2 ≤ names.length ∧
        ∀ e ∈ old, ¬ R.Repeats e ((spec b).completed names)) ∧
      (∀ e ∈ bs.map spec, e.Known names) ∧ EnoughNodes names bs ∧
      (old ++ (spec b).completed names :: (bs.map spec).map (·.completed names)).Pairwise
        fun a b => ¬ R.Repeats a b) ↔
    (∀ e ∈ (b :: bs).map spec, e.Known names) ∧ EnoughNodes names (b :: bs) ∧
      (old ++ ((b :: bs).map spec).map (·.completed names)).Pairwise
        fun a b => ¬ R.Repeats a b := by
  rw [List.map_cons, List.map_cons, List.forall_mem_cons]
  constructor
  · intro hc
    obtain ⟨⟨hknown, hlen, -⟩, hknowns, -, hpair⟩ := hc
    exact ⟨⟨hknown, hknowns⟩, fun _ => hlen, hpair⟩
  · intro hc
    obtain ⟨⟨hknown, hknowns⟩, hlen, hpair⟩ := hc
    have hlen : 2 ≤ names.length := hlen (List.cons_ne_nil _ _)
    refine ⟨⟨hknown, hlen, fun e he => ?_⟩, hknowns, fun _ => hlen, hpair⟩
    exact (List.pairwise_append.mp hpair).2.2 e he _ List.mem_cons_self

private theorem addEdges_decides (hop : Links R Named op spec) (hg : Sound R Named g)
    (hunique : (g.edgeSpecs R).Pairwise fun a b => ¬ R.Repeats a b) (bs : List β) :
    Decides (inOrder (bs.map op)) g
      ((∀ e ∈ bs.map spec, e.Known (g.names R)) ∧ EnoughNodes (g.names R) bs ∧
        (g.edgeSpecs R ++ (bs.map spec).map (·.completed (g.names R))).Pairwise
          fun a b => ¬ R.Repeats a b)
      (fun g' => Sound R Named g' ∧ g'.nodes = g.nodes ∧
        g'.edgeSpecs R = g.edgeSpecs R ++ (bs.map spec).map (·.completed (g.names R)))
      fun e => (∀ e ∈ bs.map spec, e.Known (g.names R)) → (g.names R).length < 2 →
        e = .notEnoughNodes R.nodes 2 (g.names R).length := by
  induction bs generalizing g with
  | nil =>
    refine decides_nil ⟨hg, rfl, (List.append_nil _).symm⟩ ⟨by simp, fun h => absurd rfl h, ?_⟩
    rw [List.map_nil, List.map_nil, List.append_nil]
    exact hunique
  | cons b bs ih =>
    refine Decides.imp ?_ addable_cons_iff (fun _ _ h => h) fun _ _ h => h
    rw [List.map_cons, List.map_cons, List.map_cons]
    refine ((hop g hg b).imp Iff.rfl (fun _ _ h => h) fun _ _ h hknown => ?_).cons
      fun g' hc hadded => ?_
    · exact h (hknown _ List.mem_cons_self)
    obtain ⟨hsound, hnodes, hedges⟩ := hadded
    have hnames : g'.names R = g.names R := congrArg (List.map R.name) hnodes
    have hpair : (g'.edgeSpecs R).Pairwise fun a b => ¬ R.Repeats a b := by
      rw [hedges, List.pairwise_append]
      refine ⟨hunique, List.pairwise_singleton _ _, fun e he f hf => ?_⟩
      rw [List.mem_singleton.mp hf]
      exact hc.2.2 e he
    have hrest := ih hsound hpair
    rw [hnames, hnodes, hedges, List.append_assoc, List.singleton_append] at hrest
    exact hrest.imp Iff.rfl (fun _ _ h => h) fun _ _ h hknown =>
      h fun c hc => hknown c (List.mem_cons_of_mem _ hc)

end Edges

section Listed

variable {γ : Type} {ops : α → List (Editing (Graph κ ν ε) γ)} {view : ν → α} {made : α → α}
  {title : α → String} {Good : α → Prop} {op : β → Editing (Graph κ ν ε) γ} {spec : β → EdgeSpec ε}

/-- How one listed node is added: its name has to be new, and the node good by itself. -/
def AddsNode (R : Rules κ ν ε) (Named : ν → Prop) (ops : α → List (Editing (Graph κ ν ε) γ))
    (view : ν → α) (made : α → α) (title : α → String) (Good : α → Prop) : Prop :=
  ∀ g, Sound R Named g → ∀ a, Decides (inOrder (ops a)) g
    (NewAmong R.nodes (g.names R) [title (made a)] ∧ Good a)
    (fun g' => Sound R Named g' ∧ g'.edges = g.edges ∧
      g'.nodes.map view = g.nodes.map view ++ [made a]) fun _ => True

omit [DecidableEq κ] in
private theorem addNodes_decides (hops : AddsNode R Named ops view made title Good)
    (htitle : ∀ n, title (view n) = R.name n) (as : List α) {names : List String}
    (hnames : (as.map made).map title = names) :
    Decides (inOrder (as.flatMap ops)) ({} : Graph κ ν ε)
      (NewAmong R.nodes [] names ∧ ∀ a ∈ as, Good a)
      (fun g => (Sound R Named g ∧ g.edges = []) ∧ g.nodes.map view = as.map made)
      fun _ => True := by
  let I (g : Graph κ ν ε) : Prop := Sound R Named g ∧ g.edges = []
  let list (g : Graph κ ν ε) : List α := g.nodes.map view
  have htitles (g : Graph κ ν ε) : (list g).map title = g.names R := by
    rw [Graph.names, List.map_map]
    exact List.map_congr_left fun n _ => htitle n
  have hnodup (g : Graph κ ν ε) (hg : I g) : (((list g).map title).map (printKey R.nodes)).Nodup :=
    htitles g ▸ printKeys_names hg.1
  have hadd (g : Graph κ ν ε) (hg : I g) (a : α) : Decides (inOrder (ops a)) g
      (NewAmong R.nodes ((list g).map title) [title (made a)] ∧ Good a)
      (fun g' => I g' ∧ list g' = list g ++ [made a]) fun _ => True := by
    rw [htitles]
    refine (hops g hg.1 a).imp Iff.rfl (fun g' _ h => ?_) fun _ _ h => h
    exact ⟨⟨h.1, h.2.1.trans hg.2⟩, h.2.2⟩
  have hempty : I {} := ⟨sound_empty 0 [], rfl⟩
  have hall := addListed_decides hnodup hadd hempty as
  rw [hnames] at hall
  exact hall

/-- When the listed nodes and then the listed edges can be added to an empty graph, and what the
graph lists afterwards. If all but the number of nodes is in order, this is what the rejection says. -/
theorem listed_decides (hops : AddsNode R Named ops view made title Good)
    (hop : Links R Named op spec) (htitle : ∀ n, title (view n) = R.name n) (as : List α)
    (bs : List β) {names : List String} (hnames : (as.map made).map title = names) :
    Decides (inOrder (as.flatMap ops ++ bs.map op)) ({} : Graph κ ν ε)
      ((R.Fits names (bs.map spec) ∧ ∀ a ∈ as, Good a) ∧ EnoughNodes names bs)
      (fun g => Sound R Named g ∧ g.nodes.map view = as.map made ∧
        g.edgeSpecs R = (bs.map spec).map (·.completed names))
      fun e => R.Fits names (bs.map spec) → (∀ a ∈ as, Good a) →
        LacksNodes R.nodes names bs e := by
  let specs := bs.map spec
  have hnodes := addNodes_decides hops htitle as hnames
  have hboth : Decides (inOrder (as.flatMap ops ++ bs.map op)) ({} : Graph κ ν ε)
      ((NewAmong R.nodes [] names ∧ ∀ a ∈ as, Good a) ∧ (∀ e ∈ specs, e.Known names) ∧
        EnoughNodes names bs ∧ (specs.map (·.completed names)).Pairwise fun a b => ¬ R.Repeats a b)
      (fun g => Sound R Named g ∧ g.nodes.map view = as.map made ∧
        g.edgeSpecs R = specs.map (·.completed names))
      fun e => NewAmong R.nodes [] names → (∀ a ∈ as, Good a) → (∀ e ∈ specs, e.Known names) →
        names.length < 2 → e = .notEnoughNodes R.nodes 2 names.length := by
    refine (hnodes.imp Iff.rfl (fun _ _ h => h) fun _ hc _ hnew hgood => ?_).append
      fun g _ hadded => ?_
    · exact absurd ⟨hnew, hgood⟩ hc
    obtain ⟨⟨hsound, hedges⟩, hview⟩ := hadded
    have hspecs : g.edgeSpecs R = [] := congrArg (List.map _) hedges
    have htitled : g.names R = names := by
      rw [← hnames, ← hview, List.map_map, Graph.names]
      exact List.map_congr_left fun n _ => (htitle n).symm
    have hlinks := addEdges_decides hop hsound (hspecs ▸ List.Pairwise.nil) bs
    rw [htitled, hspecs] at hlinks
    refine hlinks.imp Iff.rfl (fun g' _ h => ?_) fun _ _ h _ _ => h
    exact ⟨h.1, h.2.1 ▸ hview, h.2.2⟩
  -- What is left is to sort the conditions of nodes and edges into those that make a list fit.
  refine hboth.imp ?_ (fun _ _ h => h) fun e hc h hfits hgood => ?_
  · constructor
    · intro hc
      obtain ⟨⟨hnew, hgood⟩, hknown, henough, hpair⟩ := hc
      exact ⟨⟨⟨hnew.nonblank, hnew.distinct, hknown, hpair⟩, hgood⟩, henough⟩
    · intro hc
      obtain ⟨⟨hfits, hgood⟩, henough⟩ := hc
      exact ⟨⟨⟨hfits.nonblank, hfits.distinct⟩, hgood⟩, hfits.known, henough, hfits.unique⟩
  · have hnew : NewAmong R.nodes [] names := ⟨hfits.nonblank, hfits.distinct⟩
    have hshort : ¬ EnoughNodes names bs := fun henough =>
      hc ⟨⟨hnew, hgood⟩, hfits.known, henough, hfits.unique⟩
    obtain ⟨hne, hlt⟩ := Classical.not_imp.mp hshort
    have hlt := Nat.lt_of_not_le hlt
    exact ⟨hne, hlt, h hnew hgood hfits.known hlt⟩

end Listed

end Graph

end UmlDiagrams
