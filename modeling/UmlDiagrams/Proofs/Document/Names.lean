import UmlDiagrams.Proofs.Document.Ends
import UmlDiagrams.Proofs.Document.Listing
import UmlDiagrams.Proofs.Document.Replay

namespace UmlDiagrams

open Stateful UmlDiagrams.Graph

variable {ε β : Type} {kind : Kind} {nodes edges : Collection}

def addName (kind : Kind) (nodes edges : Collection) (name : String) :
    Editing (Graph String String ε) Reply := do
  let _ ← addNode (.byName kind nodes edges) name fun _ n => n
  return .done

def linkNames (kind : Kind) (nodes edges : Collection) (spec : EdgeSpec ε) :
    Editing (Graph String String ε) Reply :=
  return .created (← addEdge (.byName kind nodes edges) spec.source spec.target spec.data)

private theorem addsNode_byName :
    AddsNode (.byName kind nodes edges : Rules String String ε) Text.IsName
      (fun n => [addName kind nodes edges n]) (fun n => n) Text.trim (fun n => n)
      fun _ => True := by
  intro g hg n
  have hadd := (addNode_decides hg (byName_builds kind nodes edges) n).answer fun _ => Reply.done
  refine hadd.cons fun g' _ h => decides_nil ?_ trivial
  rw [List.map_id', List.map_id']
  exact h

theorem edgeSpecs_byName {g : Graph String String ε}
    (h : Sound (.byName kind nodes edges) Text.IsName g) :
    g.edgeSpecs (.byName kind nodes edges) =
      g.edges.map fun e => ⟨some e.source, some e.target, e.data⟩ := by
  have hend {n : String} (hn : n ∈ g.keys (.byName kind nodes edges)) :
      g.endName (.byName kind nodes edges) n = some n := by
    obtain ⟨m, hm, rfl⟩ := List.mem_map.mp hn
    exact endName_key h hm
  refine List.map_congr_left fun e he => ?_
  rw [hend (h.ends e he).1, hend (h.ends e he).2]

private theorem names_decides (kind : Kind) (nodes edges : Collection) (names : List String)
    (bs : List β) (spec : β → EdgeSpec ε) :
    Decides (inOrder (names.map (addName kind nodes edges) ++
        bs.map fun b => linkNames kind nodes edges (spec b))) ({} : Graph String String ε)
      ((Rules.byName kind nodes edges : Rules String String ε).Fits (names.map Text.trim)
          (bs.map spec) ∧
        EnoughNodes (names.map Text.trim) bs)
      (fun g => Sound (.byName kind nodes edges) Text.IsName g ∧ g.nodes = names.map Text.trim ∧
        g.edges.map (fun e => ⟨some e.source, some e.target, e.data⟩) =
          (bs.map spec).map (·.completed (names.map Text.trim)))
      fun e => (Rules.byName kind nodes edges : Rules String String ε).Fits (names.map Text.trim)
          (bs.map spec) →
        LacksNodes nodes (names.map Text.trim) bs e := by
  have hlinks : Links (.byName kind nodes edges) Text.IsName
      (fun b => linkNames kind nodes edges (spec b)) spec :=
    (links_byName spec).answer Reply.created
  have hlisted := listed_decides addsNode_byName hlinks (fun _ => rfl) names bs
    (List.map_id' (names.map Text.trim))
  rw [← List.map_eq_flatMap] at hlisted
  refine hlisted.imp (by simp) (fun g _ h => ?_) fun e _ h hfits => h hfits fun _ _ => trivial
  rw [List.map_id', edgeSpecs_byName h.1] at h
  exact h

/-- The steps of a section of names, on a store where its diagram is new. -/
theorem names_replay {L : Part (Graph String String ε)} {s : Store} {add : String → Edit}
    {link : β → Edit} {spec : β → EdgeSpec ε} (hs : L.part s = {})
    (hadd : ∀ n, Store.apply (add n) = within L.part L.put (addName kind nodes edges n))
    (hlink : ∀ b, Store.apply (link b) = within L.part L.put (linkNames kind nodes edges (spec b)))
    (node edge : String) (names : List String) (bs : List β) :
    s.Replays (nodeSteps node add names ++ edgeSteps edge (fun b => .edit (link b)) bs)
      ((Rules.byName kind nodes edges : Rules String String ε).Fits (names.map Text.trim)
          (bs.map spec) ∧
        EnoughNodes (names.map Text.trim) bs)
      (fun s' => ∃ g, (Sound (.byName kind nodes edges) Text.IsName g ∧
        g.nodes = names.map Text.trim ∧
        g.edges.map (fun e => ⟨some e.source, some e.target, e.data⟩) =
          (bs.map spec).map (·.completed (names.map Text.trim))) ∧ s' = L.put s g)
      fun e => (Rules.byName kind nodes edges : Rules String String ε).Fits (names.map Text.trim)
          (bs.map spec) →
        LacksNodes nodes (names.map Text.trim) bs e := by
  have hsteps := sectionSteps_perform hadd hlink node edge names bs
  have hdecides := names_decides kind nodes edges names bs spec
  rw [← hs] at hdecides
  exact Store.replays_within hsteps hdecides

end UmlDiagrams
