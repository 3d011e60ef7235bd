import UmlDiagrams.Proofs.Source.Count
/-!
# Sheets

A sheet is the body of the source with the records that its parts show: each block knows its node,
and each line of an edge its edge and the tokens in it. The lines of a sheet are those of the
source.
-/

namespace UmlDiagrams

open Text

/-- A node as it is declared: what it is known by, the token that stands for it, and its lines. -/
structure SheetNode where
  reference : Reference
  token : String
  lines : List String
deriving DecidableEq, Repr

/-- An edge as it is written, with the tokens of its ends. -/
structure SheetEdge where
  id : Id
  source : String
  symbol : String
  target : String
  suffix : String
deriving DecidableEq, Repr

def SheetEdge.line (e : SheetEdge) : String :=
  edgeLine e.source e.symbol e.target e.suffix

structure Sheet where
  opening : List String := []
  nodes : List SheetNode
  edges : List SheetEdge
deriving DecidableEq, Repr

def Sheet.lines (s : Sheet) : List String :=
  s.opening ++ s.nodes.flatMap SheetNode.lines ++ [""] ++ s.edges.map SheetEdge.line

namespace Graph

variable {κ ν ε : Type}

def sheetNode (R : Rules κ ν ε) (L : Layout ν ε) (block : ν → List String) (n : ν) : SheetNode :=
  ⟨R.reference (R.key n), L.token n, block n⟩

variable [DecidableEq κ]

/-- The token of the node known by `key`. -/
def token (R : Rules κ ν ε) (L : Layout ν ε) (g : Graph κ ν ε) (key : κ) : String :=
  ((g.findNode? R key).map L.token).getD ""

def sheetEdge (R : Rules κ ν ε) (L : Layout ν ε) (g : Graph κ ν ε) (e : Edge κ ε) : SheetEdge :=
  ⟨e.id, g.token R L e.source, L.symbol e.data, g.token R L e.target, L.suffix e.data⟩

/-- How the layout writes a graph whose nodes have these blocks. -/
def sheet (R : Rules κ ν ε) (L : Layout ν ε) (block : ν → List String) (g : Graph κ ν ε) :
    Sheet where
  nodes := g.nodes.map (sheetNode R L block)
  edges := g.edges.map (g.sheetEdge R L)

variable {R : Rules κ ν ε} {L : Layout ν ε} {block : ν → List String} {g : Graph κ ν ε} {b : Body}

theorem token_eq (hkeys : (g.keys R).Nodup) {n : ν} (hn : n ∈ g.nodes) :
    g.token R L (R.key n) = L.token n := by
  obtain ⟨m, hm, hkey, hfind⟩ := findNode?_of_mem (List.mem_map_of_mem hn : R.key n ∈ g.keys R)
  rw [token, hfind, eq_of_key_eq hkeys hm hn hkey]
  rfl

private theorem Declares.token_eq (hkeys : (g.keys R).Nodup) {key : κ} {n : ν}
    (h : g.Declares R L key n) : g.token R L key = L.token n := by
  obtain ⟨rfl, i, hi, -⟩ := h
  exact Graph.token_eq hkeys (List.mem_of_getElem? hi)

private theorem Written.lines_eq (h : g.Written R L block b) :
    (g.sheet R L block).lines = b.lines := by
  have hblocks : (g.sheet R L block).nodes.flatMap SheetNode.lines = b.blocks.flatten := by
    rw [h.blocks, sheet, List.flatMap_map, List.flatMap_def]
    rfl
  have hedges : (g.sheet R L block).edges.map SheetEdge.line = b.edges := by
    rw [← List.forall₂_eq_eq_eq, sheet, List.map_map, List.forall₂_map_left_iff]
    refine h.resolves.resolved.imp fun e line hline => ?_
    obtain ⟨m, n, hm, hn, rfl⟩ := hline
    rw [Function.comp_apply, sheetEdge, SheetEdge.line, hm.token_eq h.keys, hn.token_eq h.keys]
    rfl
  rw [Sheet.lines, Body.lines, hblocks, hedges, h.opening]
  rfl

end Graph

namespace UseCaseDiagram

def actorNode (name : String) : SheetNode :=
  ⟨.name name, quoted name, ["actor " ++ quoted name]⟩

def useCaseNode (name : String) : SheetNode :=
  ⟨.name name, quoted name, ["usecase " ++ quoted name]⟩

def linkEdge (l : UseCaseLink) : SheetEdge :=
  ⟨l.id, quoted l.actor, "-->", quoted l.useCase, ""⟩

def sheet (direction : Direction) (d : UseCaseDiagram) : Sheet where
  opening := [direction.line]
  nodes := d.actors.map actorNode ++ d.useCases.map useCaseNode
  edges := d.links.map linkEdge

private theorem sheet_lines (d : UseCaseDiagram) (direction : Direction) :
    (d.sheet direction).lines = (d.body direction).lines := by
  have hactors : (d.actors.map actorNode).flatMap SheetNode.lines =
      d.actors.map ("actor " ++ quoted ·) := by
    rw [List.flatMap_map]
    exact List.flatMap_pure_eq_map _ _
  have huseCases : (d.useCases.map useCaseNode).flatMap SheetNode.lines =
      d.useCases.map ("usecase " ++ quoted ·) := by
    rw [List.flatMap_map]
    exact List.flatMap_pure_eq_map _ _
  rw [Sheet.lines, Body.lines, blocks_flatten, declarations, sheet, List.flatMap_append, hactors,
    huseCases, List.map_map]
  rfl

end UseCaseDiagram

namespace SequenceDiagram

def sheet (d : SequenceDiagram) : Sheet :=
  Graph.sheet rules layout (fun n => ["actor " ++ participant n]) d

end SequenceDiagram

namespace ClassDiagram

def sheet (d : ClassDiagram) : Sheet :=
  Graph.sheet rules layout ClassRecord.block d

end ClassDiagram

namespace EntityDiagram

def sheet (d : EntityDiagram) : Sheet :=
  Graph.sheet rules layout EntityRecord.block d

end EntityDiagram

namespace FlowDiagram

def activitySheet (d : FlowDiagram) : Sheet :=
  Graph.sheet activityRules activityLayout (fun n => ["action " ++ quoted n]) d

def componentSheet (d : FlowDiagram) : Sheet :=
  Graph.sheet componentRules componentLayout (fun n => [bracketed n]) d

end FlowDiagram

namespace StateDiagram

def sheet (d : StateDiagram) : Sheet :=
  Graph.sheet rules layout (fun n => ["state " ++ quoted n]) d

end StateDiagram

namespace Store

def sheet (s : Store) : Kind → Sheet
  | .sequence => s.sequence.sheet
  | .classes => s.classes.sheet
  | .useCase => s.useCase.sheet s.style.direction
  | .entity => s.entity.sheet
  | .activity => s.activity.activitySheet
  | .component => s.component.componentSheet
  | .state => s.state.sheet

variable {s : Store}

private theorem sheet_lines (h : s.Sound) (kind : Kind) :
    (s.sheet kind).lines = (s.body kind).lines := by
  cases kind with
  | sequence => exact (SequenceDiagram.written h.sequence).lines_eq
  | classes => exact (ClassDiagram.written h.classes).lines_eq
  | useCase => exact s.useCase.sheet_lines s.style.direction
  | entity => exact (EntityDiagram.written h.entity).lines_eq
  | activity => exact (FlowDiagram.activity_written h.activity).lines_eq
  | component =>
    have hwritten := FlowDiagram.component_written h.component
    simp only [String.empty_append] at hwritten
    exact hwritten.lines_eq
  | state => exact (StateDiagram.written h.state).lines_eq

/-- The source is the sheet of the active kind in a frame that depends on the colors only. Colors
that were never validated may break the lines of the header, but none of the others. -/
theorem splitLines_sheet (h : s.Sound) :
    splitLines s.source = splitLines (String.join (s.style.header.map (· ++ "\n"))) ++
      (s.sheet s.kind).lines ++ ["@enduml"] := by
  have hrest : ∀ l ∈ (s.body s.kind).lines ++ ["@enduml"], OneLine l := by
    rw [List.forall_mem_append, List.forall_mem_singleton]
    exact ⟨fun l hl => ((s.body_tidy s.kind).unbroken l hl).oneLine, by decide⟩
  obtain ⟨text, htext⟩ : ∃ text, String.join (s.style.header.map (· ++ "\n")) = text ++ "\n" := by
    refine ⟨String.join ((s.style.header.take 5).map (· ++ "\n")), ?_⟩
    simp [Style.header, String.append_assoc]
  have hsource : s.source = text ++ "\n" ++
      String.join (((s.body s.kind).lines ++ ["@enduml"]).map (· ++ "\n")) := by
    rw [source, sourceLines, List.append_assoc, List.map_append, String.join_append, htext]
  rw [htext, hsource, splitLines_break, splitLines_join hrest, sheet_lines h, List.append_assoc]

end Store

end UmlDiagrams
