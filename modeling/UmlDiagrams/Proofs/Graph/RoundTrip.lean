import Mathlib.Data.Set.Function
import UmlDiagrams.Proofs.Graph.Listing
/-!
# Graphs listed again

What a sound graph lists can be listed again. Two graphs that list the same differ in nothing but the
identifiers of their records, and these can be renamed, each collection by itself, without two of them
becoming one.
-/

namespace UmlDiagrams

variable {κ ν ε α β : Type}

namespace Graph

variable [DecidableEq κ] {R : Rules κ ν ε} {Named : ν → Prop} {g : Graph κ ν ε}

theorem endName_isSome (h : Sound R Named g) {k : κ} (hk : k ∈ g.keys R) :
    ∃ n ∈ g.names R, g.endName R k = some n := by
  obtain ⟨m, hm, rfl⟩ := List.mem_map.mp hk
  exact ⟨R.name m, List.mem_map_of_mem hm, endName_key h hm⟩

private theorem completed_edgeSpecs (h : Sound R Named g) {names : List String} {spec : EdgeSpec ε}
    (hspec : spec ∈ g.edgeSpecs R) : spec.completed names = spec := by
  obtain ⟨e, he, rfl⟩ := List.mem_map.mp hspec
  obtain ⟨s, -, hs⟩ := endName_isSome h (h.ends e he).1
  obtain ⟨t, -, ht⟩ := endName_isSome h (h.ends e he).2
  rw [EdgeSpec.completed, hs, ht]
  rfl

private theorem edgeSpecs_unique (h : Sound R Named g) :
    (g.edgeSpecs R).Pairwise fun a b => ¬ R.Repeats a b := by
  rw [edgeSpecs, List.pairwise_map]
  refine h.unique.imp_of_mem fun he hf hunique hrepeats => hunique ⟨?_, ?_, hrepeats.2.2⟩
  · exact endName_inj h (h.ends _ he).1 (h.ends _ hf).1 hrepeats.1
  · exact endName_inj h (h.ends _ he).2 (h.ends _ hf).2 hrepeats.2.1

theorem listed_fits (h : Sound R Named g) (hnamed : ∀ n, Named n → Text.IsName (R.name n)) :
    R.Fits (g.names R) (g.edgeSpecs R) where
  nonblank n hn := by
    obtain ⟨m, hm, rfl⟩ := List.mem_map.mp hn
    exact (hnamed m (h.named m hm)).nonempty
  distinct := printKeys_names h
  known spec hspec := by
    obtain ⟨e, he, rfl⟩ := List.mem_map.mp hspec
    obtain ⟨s, hsmem, hs⟩ := endName_isSome h (h.ends e he).1
    obtain ⟨t, htmem, ht⟩ := endName_isSome h (h.ends e he).2
    refine ⟨fun n hn => ?_, fun n hn => ?_⟩
    · rw [Option.some.inj (hn.symm.trans hs)]
      exact hsmem
    · rw [Option.some.inj (hn.symm.trans ht)]
      exact htmem
  unique := by
    have hsame : (g.edgeSpecs R).map (·.completed (g.names R)) = g.edgeSpecs R := by
      conv_rhs => rw [← List.map_id (g.edgeSpecs R)]
      exact List.map_congr_left fun spec hspec => completed_edgeSpecs h hspec
    rw [hsame]
    exact edgeSpecs_unique h

def Replayable (g : Graph κ ν ε) : Prop :=
  g.edges ≠ [] → 2 ≤ g.nodes.length

omit [DecidableEq κ] in
theorem enoughNodes_listed {names : List String} (hnames : names = g.names R)
    (f : Edge κ ε → β) : EnoughNodes names (g.edges.map f) ↔ g.Replayable := by
  rw [hnames, EnoughNodes, Graph.names, List.length_map, ne_eq, List.map_eq_nil_iff]
  rfl

theorem lacksNodes_listed (h : Sound R Named g) {names : List String} (hnames : names = g.names R)
    {c : Collection} {f : Edge κ ε → β} {e : Rejection}
    (hlacks : LacksNodes c names (g.edges.map f) e) : e = .notEnoughNodes c 2 1 := by
  rw [hnames] at hlacks
  have hne : g.edges ≠ [] := fun hnil => hlacks.wanted (congrArg (List.map f) hnil)
  obtain ⟨edge, edges, hcons⟩ := List.exists_cons_of_ne_nil hne
  have hmem : edge ∈ g.edges := hcons ▸ List.mem_cons_self
  obtain ⟨n, hn, -⟩ := endName_isSome h (h.ends edge hmem).1
  have hpos := List.length_pos_of_mem hn
  have hfew := hlacks.few
  have hone : (g.names R).length = 1 := by omega
  rw [hlacks.reason, hone]

end Graph

/-- Lists that are viewed alike are alike up to their identifiers, if the view hides nothing else. -/
theorem exists_renaming (key : α → Id) (withId : Id → α → α) {view : α → β}
    (hkey : ∀ i x, key (withId i x) = i) (hview : ∀ x y, view x = view y → y = withId (key y) x)
    {xs ys : List α} (h : xs.map view = ys.map view) (hx : (xs.map key).Nodup)
    (hy : (ys.map key).Nodup) :
    ∃ ρ : Id → Id, Set.InjOn ρ {i | i ∈ xs.map key} ∧
      ys = xs.map fun x => withId (ρ (key x)) x := by
  induction xs generalizing ys with
  | nil => exact ⟨id, by simp, by simpa using h.symm⟩
  | cons x xs ih =>
    cases ys with
    | nil => cases h
    | cons y ys =>
      obtain ⟨hxy, htail⟩ := List.cons.inj h
      obtain ⟨hxnew, hx⟩ := List.nodup_cons.mp hx
      obtain ⟨hynew, hy⟩ := List.nodup_cons.mp hy
      obtain ⟨ρ, hinj, hys⟩ := ih htail hx hy
      have hold (i : Id) (hi : i ∈ xs.map key) : Function.update ρ (key x) (key y) i = ρ i :=
        Function.update_of_ne (fun heq : i = key x => hxnew (heq ▸ hi)) _ _
      have hnew : Function.update ρ (key x) (key y) (key x) = key y :=
        Function.update_self _ _ _
      have hrange (i : Id) (hi : i ∈ xs.map key) : ρ i ∈ ys.map key := by
        obtain ⟨z, hz, rfl⟩ := List.mem_map.mp hi
        rw [hys, List.map_map]
        exact List.mem_map.mpr ⟨z, hz, hkey _ z⟩
      refine ⟨Function.update ρ (key x) (key y), ?_, ?_⟩
      · intro i hi j hj heq
        rcases List.mem_cons.mp hi with rfl | hi
        · rcases List.mem_cons.mp hj with rfl | hj
          · rfl
          · rw [hnew, hold j hj] at heq
            exact absurd (heq ▸ hrange j hj) hynew
        · rcases List.mem_cons.mp hj with rfl | hj
          · rw [hnew, hold i hi] at heq
            exact absurd (heq ▸ hrange i hi) hynew
          · rw [hold i hi, hold j hj] at heq
            exact hinj hi hj heq
      · rw [List.map_cons, hnew, ← hview x y hxy]
        refine congrArg (y :: ·) (hys.trans (List.map_congr_left fun z hz => ?_))
        rw [hold _ (List.mem_map_of_mem hz)]

/-- The edge with its own identifier and its ends renamed. -/
def Edge.renamed (node : κ → κ) (edge : Id → Id) (e : Edge κ ε) : Edge κ ε :=
  ⟨edge e.id, node e.source, node e.target, e.data⟩

namespace Graph

/-- The second graph is the first one with its nodes, their keys and the edges renamed. -/
structure Renamed (node : ν → ν) (key : κ → κ) (edge : Id → Id) (g g' : Graph κ ν ε) : Prop where
  nodes : g'.nodes = g.nodes.map node
  edges : g'.edges = g.edges.map (Edge.renamed key edge)

variable {R : Rules κ ν ε} {Named : ν → Prop} {g g' : Graph κ ν ε}

theorem exists_edge_renaming (key : κ → κ) (hg : Sound R Named g) (hg' : Sound R Named g')
    (h : g.edges.map (fun e => (key e.source, key e.target, e.data)) =
      g'.edges.map fun e => (e.source, e.target, e.data)) :
    ∃ ρ : Id → Id, Set.InjOn ρ {i | i ∈ g.edges.map (·.id)} ∧
      g'.edges = g.edges.map (Edge.renamed key ρ) := by
  let moved := g.edges.map (Edge.renamed key id)
  let view (e : Edge κ ε) : κ × κ × ε := (e.source, e.target, e.data)
  have hids : moved.map (·.id) = g.edges.map (·.id) := List.map_map
  have hviews : moved.map view = g'.edges.map view := List.map_map.trans h
  have hview (e f : Edge κ ε) (heq : view e = view f) : f = { e with id := f.id } := by
    obtain ⟨hsource, hrest⟩ := Prod.mk.inj heq
    obtain ⟨htarget, hdata⟩ := Prod.mk.inj hrest
    rw [hsource, htarget, hdata]
  have hunique : (moved.map (·.id)).Nodup := by
    rw [hids]
    exact hg.edgeIds
  obtain ⟨ρ, hinj, hedges⟩ := exists_renaming (fun e : Edge κ ε => e.id)
    (fun i e => { e with id := i }) (fun _ _ => rfl) hview hviews hunique hg'.edgeIds
  rw [hids] at hinj
  exact ⟨ρ, hinj, hedges.trans List.map_map⟩

theorem exists_record_renaming {R : Rules Id ν ε} {g g' : Graph Id ν ε} (hg : Sound R Named g)
    (hg' : Sound R Named g') (withId : Id → ν → ν) {view : ν → α}
    (hkey : ∀ i n, R.key (withId i n) = i) (hname : ∀ i n, R.name (withId i n) = R.name n)
    (hview : ∀ m n, view m = view n → n = withId (R.key n) m)
    (hnodes : g.nodes.map view = g'.nodes.map view) (hedges : g.edgeSpecs R = g'.edgeSpecs R) :
    ∃ ρ σ : Id → Id, Set.InjOn ρ {i | i ∈ g.keys R} ∧ Set.InjOn σ {i | i ∈ g.edges.map (·.id)} ∧
      g.Renamed (fun n => withId (ρ (R.key n)) n) ρ σ g' := by
  obtain ⟨ρ, hρ, hrenamed⟩ := exists_renaming R.key withId hkey hview hnodes hg.keys hg'.keys
  -- An end is called in one graph what the renamed end is called in the other.
  have hend (k : Id) (hk : k ∈ g.keys R) :
      ρ k ∈ g'.keys R ∧ g'.endName R (ρ k) = g.endName R k := by
    obtain ⟨n, hn, rfl⟩ := List.mem_map.mp hk
    have hmem : withId (ρ (R.key n)) n ∈ g'.nodes := by
      rw [hrenamed]
      exact List.mem_map_of_mem hn
    have hnamed := endName_key hg' hmem
    rw [hkey, hname] at hnamed
    refine ⟨?_, hnamed.trans (endName_key hg hn).symm⟩
    exact hkey (ρ (R.key n)) n ▸ List.mem_map_of_mem hmem
  have hlength : g.edges.length = g'.edges.length := by
    have hlength := congrArg List.length hedges
    rw [edgeSpecs, edgeSpecs, List.length_map, List.length_map] at hlength
    exact hlength
  have hmoved : g.edges.map (fun e => (ρ e.source, ρ e.target, e.data)) =
      g'.edges.map fun e => (e.source, e.target, e.data) := by
    refine List.ext_getElem (by simp [hlength]) fun i hi hi' => ?_
    rw [List.length_map] at hi hi'
    rw [List.getElem_map, List.getElem_map]
    have hspec : (g.edgeSpecs R)[i]? = (g'.edgeSpecs R)[i]? := by
      rw [hedges]
    rw [edgeSpecs, edgeSpecs, List.getElem?_map, List.getElem?_map,
      List.getElem?_eq_getElem hi, List.getElem?_eq_getElem hi'] at hspec
    obtain ⟨hsource, htarget, hdata⟩ := EdgeSpec.mk.inj (Option.some.inj hspec)
    have hends := hg.ends _ (List.getElem_mem hi)
    have hends' := hg'.ends _ (List.getElem_mem hi')
    obtain ⟨hs, hsname⟩ := hend _ hends.1
    obtain ⟨ht, htname⟩ := hend _ hends.2
    rw [endName_inj hg' hs hends'.1 (hsname.trans hsource),
      endName_inj hg' ht hends'.2 (htname.trans htarget), hdata]
  obtain ⟨σ, hσ, hedges⟩ := exists_edge_renaming ρ hg hg' hmoved
  exact ⟨ρ, σ, hρ, hσ, hrenamed, hedges⟩

end Graph

end UmlDiagrams
