import UmlDiagrams.Proofs.Graph.Edits
import UmlDiagrams.Proofs.Graph.Sound
import UmlDiagrams.Proofs.Naming
import UmlDiagrams.Proofs.Stateful

namespace UmlDiagrams.Graph

open Stateful

variable {κ ν ε α : Type} {R : Rules κ ν ε} {Named : ν → Prop}

theorem addNode_keeps {build : Id → String → ν} (hb : R.Builds Named build) (name : String) :
    Keeps (Sound R Named) (addNode R name build) := by
  intro g hg
  rw [after, addNode_run]
  cases h : newName R.nodes (g.nodes.map R.name) name with
  | error e => exact hg
  | ok text =>
    have hnew := (newName_eq_ok.mp h).2.2
    apply touch_sound
    apply withNode_sound hg (hb.named _ _ (isName_of_newName h))
    · intro hm
      obtain ⟨n, hn, heq⟩ := List.mem_map.mp hm
      rw [hb.name] at heq
      exact hnew _ (List.mem_map_of_mem hn) heq
    · rw [hb.name]
      exact hb.reference _ _

theorem removeEdge_keeps (id : Id) : Keeps (Sound R Named) (removeEdge R id) := by
  intro g hg
  rw [after, removeEdge_run]
  by_cases h : id ∈ g.edges.map (·.id)
  · rw [if_pos h]
    exact touch_sound (withoutEdge_sound hg id) _
  · rw [if_neg h]
    exact hg

/-- The revision must not turn an edge into a duplicate of another. -/
theorem reviseEdge_keeps (hR : R.Symmetric) {revise : ε → ε}
    (hrevise : ∀ d d', R.clash d (revise d') = R.clash d d') (id : Id) :
    Keeps (Sound R Named) (reviseEdge R id revise) := by
  intro g hg
  rw [after, reviseEdge_run]
  cases h : g.requireEdge R id with
  | error e => exact hg
  | ok edge =>
    obtain ⟨hmem, -⟩ := requireEdge_eq_ok h
    have hends := hg.ends edge hmem
    apply touch_sound
    refine replaceEdge_sound hR hg hmem rfl hends.1 hends.2 ?_
    intro e he hne hdup
    have := hR.distinct
    have hpair := hg.unique.forall he hmem fun heq => hne (heq ▸ rfl)
    exact hpair ⟨hdup.1, hdup.2.1, hrevise e.data edge.data ▸ hdup.2.2⟩

/-- The revision of a node must keep its key and its name, and the names of its members proper. -/
theorem reviseNode_keeps {R : Rules Id ν ε} {id : Id} {touched : Collection}
    {revise : ν → Except Rejection (α × ν)}
    (hrevise : ∀ old answer node, Named old → revise old = .ok (answer, node) →
      R.key node = R.key old ∧ R.name node = R.name old ∧ Named node) :
    Keeps (Sound R Named) (reviseNode R id touched revise) := by
  intro g hg
  rw [after, reviseNode_run]
  cases h : g.revisedNode R id revise with
  | error e => exact hg
  | ok result =>
    obtain ⟨answer, node⟩ := result
    obtain ⟨old, hold, -, heq⟩ := revisedNode_eq_ok h
    obtain ⟨hkey, hname, hnamed⟩ := hrevise old answer node (hg.named old hold) heq
    exact touch_sound (replaceNode_sound hg hold hkey hname hnamed) _

theorem clear_sound {g : Graph κ ν ε} : Sound R Named (clear R g) :=
  touch_sound (sound_empty g.issued g.changes) _

variable [DecidableEq κ]

theorem removeNode_keeps (key : κ) : Keeps (Sound R Named) (removeNode R key) := by
  intro g hg
  rw [after, removeNode_run]
  by_cases h : key ∈ g.keys R
  · rw [if_pos h]
    exact touch_sound (withoutNode_sound hg key) _
  · rw [if_neg h]
    exact hg

theorem addEdge_keeps (source target : Option κ) (data : ε) :
    Keeps (Sound R Named) (addEdge R source target data) := by
  intro g hg
  rw [after, addEdge_run]
  cases h : g.newEnds R source target data with
  | error e => exact hg
  | ok ends =>
    obtain ⟨a, b⟩ := ends
    obtain ⟨ha, hb, hnew⟩ := newEnds_eq_ok h
    exact touch_sound (withEdge_sound hg ha hb (hnew _)) _

theorem retarget_keeps (hR : R.Symmetric) (id : Id) (source target : κ) :
    Keeps (Sound R Named) (retarget R id source target) := by
  intro g hg
  rw [after, retarget_run]
  cases h : g.movedEdge R id source target with
  | error e => exact hg
  | ok edge =>
    obtain ⟨hs, ht, ⟨old, hold, rfl, rfl⟩, hu⟩ := movedEdge_eq_ok h
    apply touch_sound
    exact replaceEdge_sound hR hg hold rfl hs ht hu

theorem retypeEdge_keeps (hR : R.Symmetric) (id : Id) (retype : ε → ε) :
    Keeps (Sound R Named) (retypeEdge R id retype) := by
  intro g hg
  rw [after, retypeEdge_run]
  cases h : g.retypedEdge R id retype with
  | error e => exact hg
  | ok edge =>
    obtain ⟨⟨old, hold, rfl, rfl⟩, hu⟩ := retypedEdge_eq_ok h
    have hends := hg.ends old hold
    apply touch_sound
    exact replaceEdge_sound hR hg hold rfl hends.1 hends.2 hu

end UmlDiagrams.Graph
