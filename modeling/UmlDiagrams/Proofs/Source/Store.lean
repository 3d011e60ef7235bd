import UmlDiagrams.Proofs.Source.Resolves

namespace UmlDiagrams

open Text

def nameLayout {ε : Type} (word : String) (print : String → String) (symbol suffix : ε → String) :
    Layout String ε where
  token := print
  opening _ := word
  closing := ""
  symbol := symbol
  suffix := suffix

def recordLayout {ν ε : Type} (name opening : ν → String) (symbol label : ε → String) :
    Layout ν ε where
  token n := quoted (name n)
  opening := opening
  closing := " \x7b"
  symbol := symbol
  suffix d := labelSuffix (label d)

def SequenceDiagram.layout : Layout String Message :=
  nameLayout "actor " participant (·.arrow.symbol) fun m => ": " ++ fold m.text

def ClassDiagram.layout : Layout ClassRecord (Relation ClassRelation) :=
  recordLayout (·.name) (fun c => flagged c.isAbstract "abstract " ++ "class ") (·.kind.symbol)
    (·.label)

def EntityDiagram.layout : Layout EntityRecord (Relation ErRelation) :=
  recordLayout (·.name) (fun _ => "entity ") (·.kind.symbol) (·.label)

def FlowDiagram.activityLayout : Layout String Unit :=
  nameLayout "action " quoted (fun _ => "-->") fun _ => ""

def FlowDiagram.componentLayout : Layout String Unit :=
  nameLayout "" bracketed (fun _ => "-->") fun _ => ""

def StateDiagram.layout : Layout String String :=
  nameLayout "state " quoted (fun _ => "-->") labelSuffix

theorem SequenceDiagram.body_resolves {d : SequenceDiagram} (h : d.Sound rules IsName) :
    d.Resolves rules layout d.body := by
  refine Graph.names_resolve h (fun m n => printKey_eq_of_participant _) ?_ rfl
  simp [body, layout, nameLayout, Layout.declaration]

theorem ClassDiagram.body_resolves {d : ClassDiagram} (h : d.Sound rules ClassRecord.Named) :
    d.Resolves rules layout d.body := by
  refine Graph.records_resolve h (fun m n => printKey_eq_of_quoted _) (fun c => ?_) (·.label)
    (fun _ => rfl) (fun _ => rfl) rfl rfl
  simp [ClassRecord.block, layout, recordLayout, Layout.declaration]

theorem EntityDiagram.body_resolves {d : EntityDiagram} (h : d.Sound rules EntityRecord.Named) :
    d.Resolves rules layout d.body := by
  refine Graph.records_resolve h (fun m n => printKey_eq_of_quoted _) (fun e => ?_) (·.label)
    (fun _ => rfl) (fun _ => rfl) rfl rfl
  simp [EntityRecord.block, layout, recordLayout, Layout.declaration]

theorem FlowDiagram.activity_resolves {d : FlowDiagram} (h : d.Sound activityRules IsName) :
    d.Resolves activityRules activityLayout (d.body "action " quoted) := by
  refine Graph.names_resolve h (fun m n => printKey_eq_of_quoted _) ?_ rfl
  simp [body, activityLayout, nameLayout, Layout.declaration]

theorem FlowDiagram.component_resolves {d : FlowDiagram} (h : d.Sound componentRules IsName) :
    d.Resolves componentRules componentLayout (d.body "" bracketed) := by
  refine Graph.names_resolve h (fun m n => printKey_eq_of_bracketed) ?_ rfl
  simp [body, componentLayout, nameLayout, Layout.declaration]

theorem StateDiagram.body_resolves {d : StateDiagram} (h : d.Sound rules IsName) :
    d.Resolves rules layout d.body := by
  refine Graph.names_resolve h (fun m n => printKey_eq_of_quoted _) ?_ rfl
  simp [body, layout, nameLayout, Layout.declaration]

namespace UseCaseDiagram

def tokens (d : UseCaseDiagram) : List String :=
  d.actors.map quoted ++ d.useCases.map quoted

/-- In `b`, actors and use cases are declared by distinct tokens, and each link has a line from the
token of its actor to the token of its use case. -/
structure Resolves (d : UseCaseDiagram) (b : Body) : Prop where
  declared : b.blocks = (d.actors.map fun n => ["actor " ++ quoted n]) ++
    d.useCases.map fun n => ["usecase " ++ quoted n]
  distinct : d.tokens.Nodup
  resolved : List.Forall₂
    (fun l line => ∃ i j : Nat, d.actors[i]? = some l.actor ∧ OnlyAt d.tokens i (quoted l.actor) ∧
      d.useCases[j]? = some l.useCase ∧
      OnlyAt d.tokens (d.actors.length + j) (quoted l.useCase) ∧
      line = edgeLine (quoted l.actor) "-->" (quoted l.useCase) "") d.links b.edges

variable {d : UseCaseDiagram}

/-- Actors and use cases have one space of tokens because their names are compared with each other
as well. -/
theorem tokens_nodup (h : d.Sound) : d.tokens.Nodup := by
  have hkeys : d.actorKeys ++ d.useCaseKeys =
      (d.actors ++ d.useCases).map (printKey .useCases) := by
    rw [List.map_append]
    rfl
  have hp : (d.actors ++ d.useCases).Pairwise fun m n =>
      printKey .useCases m ≠ printKey .useCases n := by
    rw [← List.pairwise_map, ← hkeys]
    exact h.printKeys
  rw [tokens, ← List.map_append]
  exact List.pairwise_map.mpr (hp.imp fun hne heq => hne (printKey_eq_of_quoted _ heq))

theorem body_resolves (h : d.Sound) (direction : Direction) :
    d.Resolves (d.body direction) := by
  refine ⟨rfl, tokens_nodup h, ?_⟩
  refine forall₂_map fun l hl => ?_
  obtain ⟨ha, hu⟩ := h.ends l hl
  obtain ⟨i, hi⟩ := List.getElem?_of_mem ha
  obtain ⟨j, hj⟩ := List.getElem?_of_mem hu
  have hlt : i < (d.actors.map quoted).length := by
    rw [List.length_map]
    exact (List.getElem?_eq_some_iff.mp hi).1
  have hactor : d.tokens[i]? = some (quoted l.actor) := by
    rw [tokens, List.getElem?_append_left hlt, List.getElem?_map, hi]
    rfl
  have huseCase : d.tokens[d.actors.length + j]? = some (quoted l.useCase) := by
    rw [tokens, List.getElem?_append_right (by simp), List.length_map, Nat.add_sub_cancel_left,
      List.getElem?_map, hj]
    rfl
  exact ⟨i, j, hi, onlyAt_of_nodup (tokens_nodup h) hactor, hj,
    onlyAt_of_nodup (tokens_nodup h) huseCase, rfl⟩

end UseCaseDiagram

namespace Store

/-- The names in the body of a kind resolve. -/
def Resolves (s : Store) : Kind → Prop
  | .sequence =>
    s.sequence.Resolves SequenceDiagram.rules SequenceDiagram.layout (s.body .sequence)
  | .classes => s.classes.Resolves ClassDiagram.rules ClassDiagram.layout (s.body .classes)
  | .useCase => s.useCase.Resolves (s.body .useCase)
  | .entity => s.entity.Resolves EntityDiagram.rules EntityDiagram.layout (s.body .entity)
  | .activity =>
    s.activity.Resolves FlowDiagram.activityRules FlowDiagram.activityLayout (s.body .activity)
  | .component =>
    s.component.Resolves FlowDiagram.componentRules FlowDiagram.componentLayout
      (s.body .component)
  | .state => s.state.Resolves StateDiagram.rules StateDiagram.layout (s.body .state)

private theorem resolves_of_sound {s : Store} (h : s.Sound) (kind : Kind) : s.Resolves kind := by
  cases kind with
  | sequence => exact SequenceDiagram.body_resolves h.sequence
  | classes => exact ClassDiagram.body_resolves h.classes
  | useCase => exact UseCaseDiagram.body_resolves h.useCase s.style.direction
  | entity => exact EntityDiagram.body_resolves h.entity
  | activity => exact FlowDiagram.activity_resolves h.activity
  | component => exact FlowDiagram.component_resolves h.component
  | state => exact StateDiagram.body_resolves h.state

/-- Whatever operations are tried on a new store, and whichever kind is active then, names resolve
in the source. -/
theorem reachable_resolves (style : Style) (operations : List Operation) (kind : Kind) :
    (run { style } operations).Resolves kind :=
  resolves_of_sound (run_sound (initial_sound style) operations) kind

end Store

end UmlDiagrams
