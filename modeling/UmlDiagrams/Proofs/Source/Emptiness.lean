import UmlDiagrams.Proofs.Source.Count
import UmlDiagrams.Proofs.Store.Isolation

namespace UmlDiagrams.Store

open Text

variable {s t : Store} {kind : Kind}

private theorem body_lines_of_source_eq (hstyle : s.style = t.style) (h : s.source = t.source) :
    (s.body s.kind).lines = (t.body t.kind).lines := by
  have hlines (u : Store) : ∀ l ∈ (u.body u.kind).lines ++ ["@enduml"], OneLine l := by
    rw [List.forall_mem_append, List.forall_mem_singleton]
    exact ⟨fun l hl => ((u.body_tidy u.kind).unbroken l hl).oneLine, by decide⟩
  have hsplit (u : Store) : u.source = String.join (u.style.header.map (· ++ "\n")) ++
      String.join (((u.body u.kind).lines ++ ["@enduml"]).map (· ++ "\n")) := by
    rw [source, sourceLines, List.append_assoc, List.map_append, String.join_append]
  rw [hsplit, hsplit, hstyle, String.append_right_inj] at h
  exact List.append_cancel_right (join_lines_inj (hlines s) (hlines t) h)

private theorem length_body_lines (h : s.Sound) (kind : Kind) :
    (s.body kind).lines.length = s.declarationCount kind + 1 + s.edgeCount kind := by
  rw [Body.lines, List.length_append, List.length_append, length_declarations, length_edges h,
    List.length_singleton]

private theorem counts_of_source_eq (hs : s.Sound) (ht : t.Sound) (hkind : t.kind = kind)
    (hstyle : s.style = t.style) (h : (s.setKind kind).source = t.source) :
    s.declarationCount kind + s.edgeCount kind = t.declarationCount kind + t.edgeCount kind := by
  have hlines := body_lines_of_source_eq (setKind_style.trans hstyle) h
  rw [setKind_kind, body_congr (setKind_diagram kind) setKind_style, hkind] at hlines
  have hlengths := congrArg List.length hlines
  rw [length_body_lines hs, length_body_lines ht] at hlengths
  omega

private theorem isEmpty_of_counts {style : Style}
    (h : s.declarationCount kind + s.edgeCount kind =
      ({ kind, style } : Store).declarationCount kind + ({ kind, style } : Store).edgeCount kind) :
    s.isEmpty kind := by
  have hrecords {ν : Type} {count : ν → Nat} (hcount : ∀ n, 0 < count n) (nodes : List ν)
      (hsum : (nodes.map count).sum = 0) : nodes = [] := by
    cases nodes with
    | nil => rfl
    | cons n nodes =>
      have hn := hcount n
      rw [List.map_cons, List.sum_cons] at hsum
      omega
  cases kind with
  | classes =>
    obtain ⟨hnodes, hedges⟩ := Nat.add_eq_zero_iff.mp h
    have hclasses := hrecords (fun c => by rw [ClassRecord.lineCount]; omega) _ hnodes
    simp [isEmpty, Graph.isEmpty, hclasses, List.length_eq_zero_iff.mp hedges]
  | entity =>
    obtain ⟨hnodes, hedges⟩ := Nat.add_eq_zero_iff.mp h
    have hentities := hrecords (fun e => by rw [EntityRecord.lineCount]; omega) _ hnodes
    simp [isEmpty, Graph.isEmpty, hentities, List.length_eq_zero_iff.mp hedges]
  | useCase =>
    have hlengths : s.useCase.actors.length = 0 ∧ s.useCase.useCases.length = 0 ∧
        s.useCase.links.length = 0 := by
      simp only [declarationCount, edgeCount, List.length_nil] at h
      omega
    simpa [isEmpty, UseCaseDiagram.isEmpty, and_assoc] using hlengths
  | _ => simpa [isEmpty, Graph.isEmpty, declarationCount, edgeCount] using h

theorem isEmpty_of_source (h : s.Sound)
    (hsource : (s.setKind kind).source = ({ kind, style := s.style } : Store).source) :
    s.isEmpty kind := by
  have hnew : ({ kind, style := s.style } : Store).Sound := { initial_sound s.style with }
  exact isEmpty_of_counts (counts_of_source_eq h hnew rfl rfl hsource)

end UmlDiagrams.Store
