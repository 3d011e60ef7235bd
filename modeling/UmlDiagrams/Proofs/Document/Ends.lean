import UmlDiagrams.Document.Replay
import UmlDiagrams.Proofs.Diagram.Keeps
import UmlDiagrams.Proofs.Graph.Listing
/-!
# Ends of listed edges

Edges of a document name their ends. In a diagram of names the name is the end itself; in a diagram
of records it is looked up first. Either way an edge is added under the same condition.
-/

namespace UmlDiagrams

open Stateful

variable {κ ν ε α β : Type}

theorem Graph.Links.answer [DecidableEq κ] {R : Rules κ ν ε} {Named : ν → Prop} {γ : Type}
    {op : β → Editing (Graph κ ν ε) α} {spec : β → EdgeSpec ε} (h : Links R Named op spec)
    (f : α → γ) : Links R Named (fun b => op b >>= fun a => pure (f a)) spec :=
  fun g hg b => (h g hg b).answer f

section Names

variable {kind : Kind} {nodes edges : Collection} {g : Graph String String ε}

theorem names_byName : g.names (.byName kind nodes edges) = g.nodes :=
  List.map_id _

private theorem meant_byName (kind : Kind) (nodes edges : Collection) {named : Option String}
    (h : ∀ n, named = some n → n ∈ g.nodes) :
    g.Meant (.byName kind nodes edges) named named := by
  cases named with
  | none => exact .inl ⟨rfl, rfl⟩
  | some n => exact .inr ⟨n, h n rfl, rfl, rfl⟩

/-- The ends that were asked for exist once an edge has its ends. -/
private theorem newEnds_byName {source target : Option String} {data : ε} {ends : String × String}
    (h : g.newEnds (.byName kind nodes edges) source target data = .ok ends) :
    (∀ n, source = some n → n ∈ g.nodes) ∧ ∀ n, target = some n → n ∈ g.nodes := by
  have hkeys : g.keys (.byName kind nodes edges) = g.nodes := List.map_id _
  obtain ⟨⟨⟩, -, h⟩ := bind_eq_ok.mp h
  obtain ⟨a, ha, h⟩ := bind_eq_ok.mp h
  obtain ⟨b, hb, -⟩ := bind_eq_ok.mp h
  constructor
  · intro n hn
    subst hn
    rw [← hkeys, ← pickEnd_some ha]
    exact pickEnd_mem ha
  · intro n hn
    subst hn
    rw [← hkeys, ← pickEnd_some hb]
    exact pickEnd_mem hb

theorem links_byName {Named : String → Prop} (spec : β → EdgeSpec ε) :
    Graph.Links (.byName kind nodes edges) Named
      (fun b => Graph.addEdge (.byName kind nodes edges) (spec b).source (spec b).target
        (spec b).data) spec := by
  intro g hg b
  by_cases hknown : (spec b).Known (g.names (.byName kind nodes edges))
  · have hnames : g.names (.byName kind nodes edges) = g.nodes := names_byName
    have hs := meant_byName kind nodes edges (hnames ▸ hknown.source)
    have ht := meant_byName kind nodes edges (hnames ▸ hknown.target)
    exact (Graph.addEdge_decides hg hs ht).imp (by simp [hknown]) (fun _ _ h => h)
      fun _ _ h _ => h
  · have hrun := Graph.addEdge_run (.byName kind nodes edges) g (spec b).source (spec b).target
      (spec b).data
    cases h : g.newEnds (.byName kind nodes edges) (spec b).source (spec b).target
        (spec b).data with
    | error e =>
      rw [h] at hrun
      exact decides_of_run_error hrun (fun hc => hknown hc.1) fun hk => absurd hk hknown
    | ok ends =>
      obtain ⟨hs, ht⟩ := newEnds_byName h
      rw [names_byName] at hknown
      exact absurd ⟨hs, ht⟩ hknown

end Names

namespace Graph

variable {R : Rules Id ν ε} {Named : ν → Prop} {g : Graph Id ν ε}

def idNamed (R : Rules Id ν ε) (g : Graph Id ν ε) (name : String) : Option Id :=
  (g.nodes.find? fun n => R.name n = name).map R.key

def namedEnds (R : Rules Id ν ε) (g : Graph Id ν ε) (spec : EdgeSpec ε) :
    Except Rejection (Option Id × Option Id) := do
  let source ← resolveEnd R.nodes (g.idNamed R) spec.source
  let target ← resolveEnd R.nodes (g.idNamed R) spec.target
  return (source, target)

def linkNamed (R : Rules Id ν ε) (spec : EdgeSpec ε) : Editing (Graph Id ν ε) Id := do
  let (source, target) ← (← get).namedEnds R spec
  addEdge R source target spec.data

theorem linkNamed_run (g : Graph Id ν ε) (spec : EdgeSpec ε) :
    (linkNamed R spec).run g =
      match g.namedEnds R spec with
      | .ok (source, target) => (addEdge R source target spec.data).run g
      | .error e => .error e g := by
  cases h : g.namedEnds R spec <;> simp [linkNamed, h]

theorem resolveEnd_eq_ok {named : Option String} {key : Option Id}
    (h : resolveEnd R.nodes (g.idNamed R) named = .ok key) : g.Meant R named key := by
  cases named with
  | none =>
    cases h
    exact .inl ⟨rfl, rfl⟩
  | some name =>
    cases hf : g.nodes.find? fun n => R.name n = name with
    | none =>
      rw [resolveEnd, idNamed, hf] at h
      cases h
    | some n =>
      rw [resolveEnd, idNamed, hf] at h
      cases h
      have hname : R.name n = name := by
        simpa using List.find?_some hf
      exact .inr ⟨n, List.mem_of_find?_eq_some hf, by rw [hname], rfl⟩

theorem resolveEnd_known {named : Option String} (h : ∀ n, named = some n → n ∈ g.names R) :
    ∃ key, resolveEnd R.nodes (g.idNamed R) named = .ok key := by
  cases named with
  | none => exact ⟨none, rfl⟩
  | some name =>
    cases hf : g.nodes.find? fun n => R.name n = name with
    | none =>
      obtain ⟨n, hn, hname⟩ := List.mem_map.mp (h name rfl)
      have hne := List.find?_eq_none.mp hf n hn
      simp [hname] at hne
    | some n =>
      refine ⟨some (R.key n), ?_⟩
      rw [resolveEnd, idNamed, hf]
      rfl

private theorem known_of_meant {spec : EdgeSpec ε} {source target : Option Id}
    (hs : g.Meant R spec.source source) (ht : g.Meant R spec.target target) :
    spec.Known (g.names R) := by
  constructor
  · intro name hname
    rcases hs with ⟨hnone, -⟩ | ⟨n, hn, hsome, -⟩
    · rw [hnone] at hname
      cases hname
    · rw [hsome] at hname
      exact Option.some.inj hname ▸ List.mem_map_of_mem hn
  · intro name hname
    rcases ht with ⟨hnone, -⟩ | ⟨n, hn, hsome, -⟩
    · rw [hnone] at hname
      cases hname
    · rw [hsome] at hname
      exact Option.some.inj hname ▸ List.mem_map_of_mem hn

theorem links_named (spec : β → EdgeSpec ε) :
    Links R Named (fun b => linkNamed R (spec b)) spec := by
  intro g hg b
  have hrun := linkNamed_run (R := R) g (spec b)
  cases h : g.namedEnds R (spec b) with
  | ok ends =>
    obtain ⟨source, target⟩ := ends
    obtain ⟨source', hs, h'⟩ := bind_eq_ok.mp h
    obtain ⟨target', ht, h'⟩ := bind_eq_ok.mp h'
    cases h'
    have hs := resolveEnd_eq_ok hs
    have ht := resolveEnd_eq_ok ht
    have hknown := known_of_meant hs ht
    rw [h] at hrun
    have hadd := (addEdge_decides hg hs ht).of_run_eq hrun
    exact hadd.imp (by simp [hknown]) (fun _ _ h => h) fun _ _ h _ => h
  | error e =>
    rw [h] at hrun
    have hunknown : ¬ (spec b).Known (g.names R) := by
      intro hknown
      obtain ⟨source, hs⟩ := resolveEnd_known hknown.source
      obtain ⟨target, ht⟩ := resolveEnd_known hknown.target
      have hok : g.namedEnds R (spec b) = .ok (source, target) :=
        bind_eq_ok.mpr ⟨source, hs, bind_eq_ok.mpr ⟨target, ht, rfl⟩⟩
      rw [h] at hok
      cases hok
    exact decides_of_run_error hrun (fun hc => hunknown hc.1) fun hk => absurd hk hunknown

end Graph

end UmlDiagrams
