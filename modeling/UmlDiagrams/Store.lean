import UmlDiagrams.Diagram.Class
import UmlDiagrams.Diagram.Entity
import UmlDiagrams.Diagram.Flow
import UmlDiagrams.Diagram.Sequence
import UmlDiagrams.Diagram.State
import UmlDiagrams.Diagram.UseCase
import UmlDiagrams.Style
/-!
# The store

One diagram of each kind and their common style. One kind is active. An edit of one diagram touches
no other.
-/

namespace UmlDiagrams

/-- `epoch` counts the switches to another kind and the clearings. -/
structure Store where
  kind : Kind := .sequence
  style : Style := {}
  sequence : SequenceDiagram := {}
  classes : ClassDiagram := {}
  useCase : UseCaseDiagram := {}
  entity : EntityDiagram := {}
  activity : FlowDiagram := {}
  component : FlowDiagram := {}
  state : StateDiagram := {}
  styleChanges : List Collection := []
  epoch : Nat := 0
deriving DecidableEq, Repr

inductive Edit where
  | sequence (edit : SequenceEdit)
  | classes (edit : ClassEdit)
  | useCase (edit : UseCaseEdit)
  | entity (edit : EntityEdit)
  | activity (edit : FlowEdit)
  | component (edit : FlowEdit)
  | state (edit : StateEdit)
  | style (edit : StyleEdit)
  | setKind (kind : Kind)
  | clear
deriving DecidableEq, Repr

namespace Store

def setKind (s : Store) (kind : Kind) : Store :=
  if s.kind = kind then s else { s with kind, epoch := s.epoch + 1 }

def clear (s : Store) : Store :=
  let s := { s with epoch := s.epoch + 1 }
  match s.kind with
  | .sequence => { s with sequence := s.sequence.clear SequenceDiagram.rules }
  | .classes => { s with classes := s.classes.clear ClassDiagram.rules }
  | .useCase => { s with useCase := s.useCase.clear }
  | .entity => { s with entity := s.entity.clear EntityDiagram.rules }
  | .activity => { s with activity := s.activity.clear FlowDiagram.activityRules }
  | .component => { s with component := s.component.clear FlowDiagram.componentRules }
  | .state => { s with state := s.state.clear StateDiagram.rules }

def isEmpty (s : Store) : Kind → Bool
  | .sequence => s.sequence.isEmpty
  | .classes => s.classes.isEmpty
  | .useCase => s.useCase.isEmpty
  | .entity => s.entity.isEmpty
  | .activity => s.activity.isEmpty
  | .component => s.component.isEmpty
  | .state => s.state.isEmpty

def apply : Edit → Editing Store Reply
  | .sequence edit =>
    Stateful.within (·.sequence) ({ · with sequence := · }) (SequenceDiagram.apply edit)
  | .classes edit =>
    Stateful.within (·.classes) ({ · with classes := · }) (ClassDiagram.apply edit)
  | .useCase edit =>
    Stateful.within (·.useCase) ({ · with useCase := · }) (UseCaseDiagram.apply edit)
  | .entity edit =>
    Stateful.within (·.entity) ({ · with entity := · }) (EntityDiagram.apply edit)
  | .activity edit =>
    Stateful.within (·.activity) ({ · with activity := · })
      (FlowDiagram.apply FlowDiagram.activityRules edit)
  | .component edit =>
    Stateful.within (·.component) ({ · with component := · })
      (FlowDiagram.apply FlowDiagram.componentRules edit)
  | .state edit =>
    Stateful.within (·.state) ({ · with state := · }) (StateDiagram.apply edit)
  | .style edit => do
    Stateful.within (·.style) ({ · with style := · }) (Style.apply edit)
    modify fun s => { s with styleChanges := notice s.styleChanges [.style] }
    return .done
  | .setKind kind => do
    modify (·.setKind kind)
    return .done
  | .clear => do
    modify clear
    return .done

/-- The pending change notices of the style and of each diagram, joined without repetition. -/
def pendingChanges (s : Store) : List Collection :=
  [s.styleChanges, s.sequence.changes, s.classes.changes, s.useCase.changes, s.entity.changes,
    s.activity.changes, s.component.changes, s.state.changes].foldl notice []

def takeChanges (s : Store) : List Collection × Store :=
  (s.pendingChanges,
    { s with
      styleChanges := []
      sequence := { s.sequence with changes := [] }
      classes := { s.classes with changes := [] }
      useCase := { s.useCase with changes := [] }
      entity := { s.entity with changes := [] }
      activity := { s.activity with changes := [] }
      component := { s.component with changes := [] }
      state := { s.state with changes := [] } })

end Store

/-- What changes a store: an edit, which may be rejected, or the taking of its change notices. -/
inductive Operation where
  | edit (edit : Edit)
  | takeChanges
deriving DecidableEq, Repr

namespace Store

def step (s : Store) : Operation → Store
  | .edit edit => (apply edit).after s
  | .takeChanges => s.takeChanges.2

def run (s : Store) (operations : List Operation) : Store :=
  operations.foldl step s

end Store

end UmlDiagrams
