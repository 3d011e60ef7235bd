import UmlDiagrams.Graph.Basic
import UmlDiagrams.Proofs.Results

namespace UmlDiagrams

variable {κ ν ε α β : Type}

namespace Rules

def Duplicates (R : Rules κ ν ε) (e f : Edge κ ε) : Prop :=
  e.source = f.source ∧ e.target = f.target ∧ R.clash e.data f.data

end Rules

theorem pickEnd_mem [DecidableEq κ] {c : Collection} {reference : κ → Reference} {keys : List κ}
    {requested : Option κ} {position : Nat} {key : κ}
    (h : pickEnd c reference keys requested position = .ok key) : key ∈ keys := by
  cases requested with
  | some wanted =>
    rw [pickEnd] at h
    by_cases hm : wanted ∈ keys
    · rw [if_pos hm] at h
      exact Except.ok.inj h ▸ hm
    · rw [if_neg hm] at h
      cases h
  | none =>
    cases hk : keys[position]? with
    | some found =>
      rw [pickEnd, hk] at h
      exact Except.ok.inj h ▸ List.mem_of_getElem? hk
    | none =>
      rw [pickEnd, hk] at h
      cases h

theorem pickEnd_some [DecidableEq κ] {c : Collection} {reference : κ → Reference} {keys : List κ}
    {wanted key : κ} {position : Nat}
    (h : pickEnd c reference keys (some wanted) position = .ok key) : key = wanted := by
  rw [pickEnd] at h
  by_cases hm : wanted ∈ keys
  · rw [if_pos hm] at h
    exact (Except.ok.inj h).symm
  · rw [if_neg hm] at h
    cases h

namespace Graph

variable {R : Rules κ ν ε} {g : Graph κ ν ε}

theorem requireEdge_eq_ok {id : Id} {edge : Edge κ ε} (h : g.requireEdge R id = .ok edge) :
    edge ∈ g.edges ∧ edge.id = id := by
  cases hf : g.findEdge? id with
  | some found =>
    rw [requireEdge, hf] at h
    cases h
    exact ⟨List.mem_of_find?_eq_some hf, by simpa using List.find?_some hf⟩
  | none =>
    rw [requireEdge, hf] at h
    cases h

theorem revisedNode_eq_ok {R : Rules Id ν ε} {g : Graph Id ν ε} {id : Id}
    {revise : ν → Except Rejection (α × ν)} {answer : α} {node : ν}
    (h : g.revisedNode R id revise = .ok (answer, node)) :
    ∃ old ∈ g.nodes, R.key old = id ∧ revise old = .ok (answer, node) := by
  obtain ⟨old, hfound, hrevise⟩ := bind_eq_ok.mp h
  cases hf : g.findNode? R id with
  | some found =>
    rw [requireNode, hf] at hfound
    cases hfound
    exact ⟨old, List.mem_of_find?_eq_some hf, by simpa using List.find?_some hf, hrevise⟩
  | none =>
    rw [requireNode, hf] at hfound
    cases hfound

variable [DecidableEq κ]

private theorem requireUnique_eq_ok {skip : Option Id} {source target : κ} {data : ε}
    (h : g.requireUnique R skip source target data = .ok ()) :
    ∀ e ∈ g.edges, some e.id ≠ skip →
      ¬ (e.source = source ∧ e.target = target ∧ R.clash e.data data) := by
  rw [requireUnique] at h
  by_cases hd : g.hasDuplicate R skip source target data
  · rw [if_pos hd] at h
    cases h
  · intro e he hskip hdup
    apply hd
    rw [hasDuplicate, List.any_eq_true]
    exact ⟨e, he, by simp [hskip, hdup]⟩

theorem requireUnique_of_forall {skip : Option Id} {source target : κ} {data : ε}
    (h : ∀ e ∈ g.edges, some e.id ≠ skip →
      ¬ (e.source = source ∧ e.target = target ∧ R.clash e.data data)) :
    g.requireUnique R skip source target data = .ok () := by
  rw [requireUnique, if_neg]
  intro hdup
  obtain ⟨e, he, hsame⟩ := List.any_eq_true.mp hdup
  have hsame : ((some e.id ≠ skip ∧ e.source = source) ∧ e.target = target) ∧
      R.clash e.data data = true := by
    simpa using hsame
  exact h e he hsame.1.1.1 ⟨hsame.1.1.2, hsame.1.2, hsame.2⟩

theorem newEnds_eq_ok {source target : Option κ} {data : ε} {a b : κ}
    (h : g.newEnds R source target data = .ok (a, b)) :
    a ∈ g.keys R ∧ b ∈ g.keys R ∧
      ∀ id, ∀ e ∈ g.edges, ¬ R.Duplicates e ⟨id, a, b, data⟩ := by
  obtain ⟨-, -, h⟩ := bind_eq_ok.mp h
  obtain ⟨a', ha, h⟩ := bind_eq_ok.mp h
  obtain ⟨b', hb, h⟩ := bind_eq_ok.mp h
  obtain ⟨⟨⟩, hu, h⟩ := bind_eq_ok.mp h
  cases h
  exact ⟨pickEnd_mem ha, pickEnd_mem hb, fun _ e he =>
    requireUnique_eq_ok hu e he (Option.some_ne_none _)⟩

theorem movedEdge_eq_ok {id : Id} {source target : κ} {edge : Edge κ ε}
    (h : g.movedEdge R id source target = .ok edge) :
    source ∈ g.keys R ∧ target ∈ g.keys R ∧
      (∃ old ∈ g.edges, old.id = id ∧ edge = { old with source, target }) ∧
      ∀ e ∈ g.edges, e.id ≠ id → ¬ R.Duplicates e edge := by
  obtain ⟨a, ha, h⟩ := bind_eq_ok.mp h
  obtain ⟨b, hb, h⟩ := bind_eq_ok.mp h
  obtain ⟨old, hold, h⟩ := bind_eq_ok.mp h
  obtain ⟨⟨⟩, hu, h⟩ := bind_eq_ok.mp h
  cases h
  have hmem := requireEdge_eq_ok hold
  rw [← pickEnd_some ha, ← pickEnd_some hb]
  refine ⟨pickEnd_mem ha, pickEnd_mem hb, ⟨old, hmem.1, hmem.2, rfl⟩, fun e he hne => ?_⟩
  exact requireUnique_eq_ok hu e he fun h => hne (Option.some.inj h)

theorem retypedEdge_eq_ok {id : Id} {retype : ε → ε} {edge : Edge κ ε}
    (h : g.retypedEdge R id retype = .ok edge) :
    (∃ old ∈ g.edges, old.id = id ∧ edge = { old with data := retype old.data }) ∧
      ∀ e ∈ g.edges, e.id ≠ id → ¬ R.Duplicates e edge := by
  obtain ⟨old, hold, h⟩ := bind_eq_ok.mp h
  obtain ⟨⟨⟩, hu, h⟩ := bind_eq_ok.mp h
  cases h
  have hmem := requireEdge_eq_ok hold
  refine ⟨⟨old, hmem.1, hmem.2, rfl⟩, fun e he hne => ?_⟩
  exact requireUnique_eq_ok hu e he fun h => hne (Option.some.inj h)

end Graph

end UmlDiagrams
