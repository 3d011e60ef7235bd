import Mathlib.Algebra.GroupWithZero.Nat
import UmlDiagrams.Proofs.Source.Drawing

namespace UmlDiagrams

open Text

def IsTidy (l : String) : Prop :=
  Unbroken l ∧ l ≠ ""

/-- Every line but the blank one is tidy. -/
structure Body.Tidy (b : Body) : Prop where
  opening : ∀ l ∈ b.opening, IsTidy l
  blocks : ∀ l ∈ b.blocks.flatten, IsTidy l
  edges : ∀ l ∈ b.edges, IsTidy l

theorem Body.Tidy.unbroken {b : Body} (h : b.Tidy) : ∀ l ∈ b.lines, Unbroken l := by
  intro l hl
  simp only [lines, List.mem_append, List.mem_singleton] at hl
  rcases hl with ((hl | hl) | rfl) | hl
  · exact (h.opening l hl).1
  · exact (h.blocks l hl).1
  · exact List.forall_mem_nil _
  · exact (h.edges l hl).1

private theorem edgeLine_isTidy {source symbol target suffix : String} (hsource : Unbroken source)
    (hsymbol : Unbroken symbol) (htarget : Unbroken target) (hsuffix : Unbroken suffix) :
    IsTidy (edgeLine source symbol target suffix) := by
  constructor
  · simp +decide [edgeLine, hsource, hsymbol, htarget, hsuffix]
  · simp [edgeLine, String.append_eq_empty_iff]

private theorem declaration_isTidy {word token : String} (hword : Unbroken word)
    (htoken : Unbroken token) (hfilled : token ≠ "") : IsTidy (word ++ token) :=
  ⟨unbroken_append.mpr ⟨hword, htoken⟩, fun h => hfilled (String.append_eq_empty_iff.mp h).2⟩

private theorem names_tidy {ε : Type} (word : String) (print : String → String)
    (symbol suffix : ε → String) (hword : Unbroken word) (hprint : ∀ n, Unbroken (print n))
    (hfilled : ∀ n, print n ≠ "") (hsymbol : ∀ d, Unbroken (symbol d))
    (hsuffix : ∀ d, Unbroken (suffix d)) (g : Graph String String ε) :
    Body.Tidy
      { blocks := g.nodes.map fun n => [word ++ print n]
        edges := g.edges.map fun e =>
          edgeLine (print e.source) (symbol e.data) (print e.target) (suffix e.data) } where
  opening := List.forall_mem_nil _
  blocks := by
    rw [flatten_singletons, List.forall_mem_map]
    exact fun n _ => declaration_isTidy hword (hprint n) (hfilled n)
  edges := by
    rw [List.forall_mem_map]
    exact fun e _ => edgeLine_isTidy (hprint _) (hsymbol _) (hprint _) (hsuffix _)

private theorem records_tidy {ν ε : Type} {R : Rules Id ν ε} {block : ν → List String}
    (symbol label : ε → String) (hblock : ∀ n, ∀ l ∈ block n, IsTidy l)
    (hsymbol : ∀ d, Unbroken (symbol d)) (g : Graph Id ν ε) :
    Body.Tidy
      { blocks := g.nodes.map block
        edges := g.edges.filterMap (recordEdgeLine? R g symbol label) } where
  opening := List.forall_mem_nil _
  blocks := by
    rw [List.forall_mem_flatten, List.forall_mem_map]
    exact fun n _ => hblock n
  edges := by
    intro l hl
    obtain ⟨e, -, hline⟩ := List.mem_filterMap.mp hl
    obtain ⟨source, -, hline⟩ := Option.bind_eq_some_iff.mp hline
    obtain ⟨target, -, hline⟩ := Option.bind_eq_some_iff.mp hline
    rw [← Option.some.inj hline]
    exact edgeLine_isTidy (unbroken_quoted _) (hsymbol _) (unbroken_quoted _)
      (unbroken_labelSuffix _)

private theorem block_isTidy {opening name : String} {inner : List String}
    (hopening : Unbroken opening) (hinner : ∀ l ∈ inner, IsTidy l) :
    ∀ l ∈ (opening ++ quoted name ++ " \x7b") :: inner ++ ["\x7d"], IsTidy l := by
  rw [List.forall_mem_append, List.forall_mem_cons, List.forall_mem_singleton]
  refine ⟨⟨declaration_isTidy ?_ (by decide) (by decide), hinner⟩, by decide, by decide⟩
  exact unbroken_append.mpr ⟨hopening, unbroken_quoted name⟩

private theorem ClassRecord.block_isTidy (c : ClassRecord) : ∀ l ∈ c.block, IsTidy l := by
  rw [block_eq]
  refine UmlDiagrams.block_isTidy ?_ fun l hl => ?_
  · exact unbroken_append.mpr ⟨unbroken_flagged (by decide), by decide⟩
  · exact ⟨(innerLines_proper hl).1, (innerLines_proper hl).2.1⟩

private theorem EntityRecord.block_isTidy (e : EntityRecord) : ∀ l ∈ e.block, IsTidy l := by
  rw [block_eq]
  refine UmlDiagrams.block_isTidy (by decide) fun l hl => ?_
  exact ⟨(attributeLines_proper hl).1, (attributeLines_proper hl).2.1⟩

private theorem Arrow.unbroken_symbol (a : Arrow) : Unbroken a.symbol := by
  cases a <;> decide

private theorem ClassRelation.unbroken_symbol (r : ClassRelation) : Unbroken r.symbol := by
  cases r <;> decide

private theorem ErRelation.unbroken_symbol (r : ErRelation) : Unbroken r.symbol := by
  cases r <;> decide

private theorem UseCaseDiagram.body_tidy (d : UseCaseDiagram) (direction : Direction) :
    (d.body direction).Tidy where
  opening := by
    refine List.forall_mem_singleton.mpr ?_
    cases direction <;> exact ⟨by decide, by decide⟩
  blocks := by
    rw [blocks_flatten, declarations, List.forall_mem_append, List.forall_mem_map,
      List.forall_mem_map]
    constructor
    · exact fun n _ => declaration_isTidy (by decide) (unbroken_quoted n) (quoted_ne_empty n)
    · exact fun n _ => declaration_isTidy (by decide) (unbroken_quoted n) (quoted_ne_empty n)
  edges := by
    rw [body, List.forall_mem_map]
    exact fun l _ => edgeLine_isTidy (unbroken_quoted _) (by decide) (unbroken_quoted _) (by decide)

theorem Store.body_tidy (s : Store) (kind : Kind) : (s.body kind).Tidy := by
  cases kind with
  | sequence =>
    refine names_tidy "actor " participant (fun m : Message => m.arrow.symbol)
      (fun m => ": " ++ fold m.text) (by decide) unbroken_participant participant_ne_empty
      (fun m => m.arrow.unbroken_symbol) (fun m => ?_) s.sequence
    exact unbroken_append.mpr ⟨by decide, unbroken_fold _⟩
  | classes =>
    exact records_tidy (fun r : Relation ClassRelation => r.kind.symbol) (·.label)
      ClassRecord.block_isTidy (fun r => r.kind.unbroken_symbol) s.classes
  | useCase => exact s.useCase.body_tidy s.style.direction
  | entity =>
    exact records_tidy (fun r : Relation ErRelation => r.kind.symbol) (·.label)
      EntityRecord.block_isTidy (fun r => r.kind.unbroken_symbol) s.entity
  | activity =>
    exact names_tidy "action " quoted (fun _ : Unit => "-->") (fun _ => "") (by decide)
      unbroken_quoted quoted_ne_empty (fun _ => by decide) (fun _ => by decide) s.activity
  | component =>
    exact names_tidy "" bracketed (fun _ : Unit => "-->") (fun _ => "") (by decide)
      unbroken_bracketed bracketed_ne_empty (fun _ => by decide) (fun _ => by decide) s.component
  | state =>
    exact names_tidy "state " quoted (fun _ : String => "-->") labelSuffix (by decide)
      unbroken_quoted quoted_ne_empty (fun _ => by decide) unbroken_labelSuffix s.state

/-- How many lines a class takes: two around its members, one for each of them, and one between
attributes and methods where there are both. -/
def ClassRecord.lineCount (c : ClassRecord) : Nat :=
  2 + c.attributes.length + c.methods.length +
    if c.attributes ≠ [] ∧ c.methods ≠ [] then 1 else 0

def EntityRecord.lineCount (e : EntityRecord) : Nat :=
  2 + e.attributes.length

theorem ClassRecord.length_block (c : ClassRecord) : c.block.length = c.lineCount := by
  have hseparator : (if c.attributes.isEmpty || c.methods.isEmpty then [] else ["  --"]).length =
      if c.attributes ≠ [] ∧ c.methods ≠ [] then 1 else 0 := by
    cases c.attributes <;> cases c.methods <;> rfl
  simp only [block, List.length_append, List.length_map, List.length_singleton, hseparator,
    lineCount]
  omega

theorem EntityRecord.length_block (e : EntityRecord) : e.block.length = e.lineCount := by
  simp only [block, List.length_append, List.length_map, List.length_singleton, lineCount]
  omega

namespace Store

def declarationCount (s : Store) : Kind → Nat
  | .sequence => s.sequence.nodes.length
  | .classes => (s.classes.nodes.map ClassRecord.lineCount).sum
  | .useCase => 1 + s.useCase.actors.length + s.useCase.useCases.length
  | .entity => (s.entity.nodes.map EntityRecord.lineCount).sum
  | .activity => s.activity.nodes.length
  | .component => s.component.nodes.length
  | .state => s.state.nodes.length

def edgeCount (s : Store) : Kind → Nat
  | .sequence => s.sequence.edges.length
  | .classes => s.classes.edges.length
  | .useCase => s.useCase.links.length
  | .entity => s.entity.edges.length
  | .activity => s.activity.edges.length
  | .component => s.component.edges.length
  | .state => s.state.edges.length

variable {s : Store}

theorem length_declarations (s : Store) (kind : Kind) :
    ((s.body kind).opening ++ (s.body kind).blocks.flatten).length = s.declarationCount kind := by
  have hnames (line : String → String) (names : List String) :
      ([] ++ (names.map fun n => [line n]).flatten).length = names.length := by
    rw [List.nil_append, flatten_singletons, List.length_map]
  have hblocks {ν : Type} {block : ν → List String} {count : ν → Nat}
      (hcount : ∀ n, (block n).length = count n) (nodes : List ν) :
      ([] ++ (nodes.map block).flatten).length = (nodes.map count).sum := by
    rw [List.nil_append, List.length_flatten, List.map_map]
    exact congrArg List.sum (List.map_congr_left fun n _ => hcount n)
  cases kind with
  | sequence => exact hnames _ s.sequence.nodes
  | classes => exact hblocks ClassRecord.length_block s.classes.nodes
  | useCase =>
    rw [body, UseCaseDiagram.blocks_flatten, UseCaseDiagram.declarations, List.length_append,
      List.length_append, List.length_map, List.length_map]
    exact (Nat.add_assoc ..).symm
  | entity => exact hblocks EntityRecord.length_block s.entity.nodes
  | activity => exact hnames _ s.activity.nodes
  | component => exact hnames _ s.component.nodes
  | state => exact hnames _ s.state.nodes

theorem length_edges (h : s.Sound) (kind : Kind) :
    (s.body kind).edges.length = s.edgeCount kind := by
  cases kind with
  | sequence => exact (SequenceDiagram.body_resolves h.sequence).resolved.length_eq.symm
  | classes => exact (ClassDiagram.body_resolves h.classes).resolved.length_eq.symm
  | useCase => exact List.length_map _
  | entity => exact (EntityDiagram.body_resolves h.entity).resolved.length_eq.symm
  | activity => exact (FlowDiagram.activity_resolves h.activity).resolved.length_eq.symm
  | component => exact (FlowDiagram.component_resolves h.component).resolved.length_eq.symm
  | state => exact (StateDiagram.body_resolves h.state).resolved.length_eq.symm

private theorem sourceLines_unbroken (hstyle : s.style.Valid) :
    ∀ l ∈ s.sourceLines, Unbroken l := by
  rw [sourceLines, List.forall_mem_append, List.forall_mem_append, List.forall_mem_singleton]
  exact ⟨⟨Style.unbroken_header hstyle, (s.body_tidy s.kind).unbroken⟩, by decide⟩

theorem splitLines_source (hstyle : s.style.Valid) : splitLines s.source = s.sourceLines :=
  splitLines_join fun l hl => (sourceLines_unbroken hstyle l hl).oneLine

private theorem sourceLines_blank (s : Store) (i : Nat) :
    s.sourceLines[i]? = some "" ↔ i = 5 ∨ i = 6 + s.declarationCount s.kind := by
  have hbody := s.body_tidy s.kind
  have hlines : s.sourceLines = s.style.header.take 5 ++
      "" :: (((s.body s.kind).opening ++ (s.body s.kind).blocks.flatten) ++
        "" :: ((s.body s.kind).edges ++ ["@enduml"])) := by
    simp [sourceLines, Body.lines, Style.header]
  have hframe : "" ∉ s.style.header.take 5 := by simp [Style.header]
  have hdeclarations : "" ∉ (s.body s.kind).opening ++ (s.body s.kind).blocks.flatten := by
    rw [List.mem_append, not_or]
    exact ⟨fun h => (hbody.opening "" h).2 rfl, fun h => (hbody.blocks "" h).2 rfl⟩
  have hedges : "" ∉ (s.body s.kind).edges ++ ["@enduml"] := by
    rw [List.mem_append, not_or]
    exact ⟨fun h => (hbody.edges "" h).2 rfl, by decide⟩
  rw [hlines, getElem?_eq_mark_iff hframe]
  simp only [getElem?_eq_mark_iff hdeclarations, length_declarations]
  constructor
  · rintro (h | ⟨j, h, rfl | ⟨k, -, hk⟩⟩)
    · exact .inl h
    · exact .inr h
    · exact absurd (List.mem_of_getElem? hk) hedges
  · rintro (h | h)
    · exact .inl h
    · exact .inr ⟨_, h, .inl rfl⟩

private theorem length_sourceLines (h : s.Sound) :
    s.sourceLines.length = 7 + (s.declarationCount s.kind + 1 + s.edgeCount s.kind) := by
  have hdeclarations := s.length_declarations s.kind
  have hedges := length_edges h s.kind
  have hheader : s.style.header.length = 6 := rfl
  simp only [sourceLines, Body.lines, List.length_append, List.length_singleton] at hdeclarations ⊢
  omega

private theorem source_ends (s : Store) : ∃ text, s.source = text ++ "\n" := by
  refine ⟨String.join ((s.style.header ++ (s.body s.kind).lines).map (· ++ "\n")) ++ "@enduml", ?_⟩
  simp [source, sourceLines, String.append_assoc]

/-- Whatever the texts in a store are, each record has its own lines in the source, and no text
breaks a line or leaves one empty. -/
theorem source_lines {s : Store} (h : s.Reachable) :
    '\r' ∉ s.source.toList ∧ (∃ text, s.source = text ++ "\n") ∧
      (splitLines s.source).take 6 = s.style.header ∧
      (splitLines s.source).getLast? = some "@enduml" ∧
      (splitLines s.source).length = 7 + (s.declarationCount s.kind + 1 + s.edgeCount s.kind) ∧
      ∀ i, (splitLines s.source)[i]? = some "" ↔ i = 5 ∨ i = 6 + s.declarationCount s.kind := by
  rw [splitLines_source h.style_valid]
  refine ⟨?_, s.source_ends, ?_, ?_, length_sourceLines h.sound, s.sourceLines_blank⟩
  · exact carriageReturn_notMem_join (sourceLines_unbroken h.style_valid)
  · rw [sourceLines, List.append_assoc]
    exact List.take_left' rfl
  · rw [sourceLines]
    exact List.getLast?_concat

/-- Two classes, one of them with an attribute and a method, and a relationship, whose texts hold
line breaks of all forms. -/
theorem source_lines_breaks :
    let operations : List Operation := [.edit (.setKind .classes),
      .edit (.classes (.addClass "A\r\nB" false)), .edit (.classes (.addClass "C" true)),
      .edit (.classes (.addAttribute ⟨.classes, 0⟩ { name := "x\ry", type := "\n" })),
      .edit (.classes (.addMethod ⟨.classes, 0⟩ { name := "f", parameters := "a\n\rb" })),
      .edit (.classes (.addRelationship none none .association "\r"))]
    let s := run {} operations
    s.Reachable ∧ '\r' ∉ s.source.toList ∧ (splitLines s.source).length = 16 ∧
      ∀ i, (splitLines s.source)[i]? = some "" ↔ i = 5 ∨ i = 13 := by
  intro operations s
  have hs : s.Reachable := ⟨{}, operations, .inl rfl, rfl⟩
  have hdeclarations : s.declarationCount s.kind = 7 := by decide +kernel
  have hedges : s.edgeCount s.kind = 1 := by decide +kernel
  obtain ⟨hreturn, -, -, -, hlength, hblank⟩ := source_lines hs
  rw [hdeclarations, hedges] at hlength
  rw [hdeclarations] at hblank
  exact ⟨hs, hreturn, hlength, hblank⟩

end Store

end UmlDiagrams
