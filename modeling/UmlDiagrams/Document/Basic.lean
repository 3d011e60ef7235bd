import UmlDiagrams.Store
/-!
# Documents

A diagram document lists the contents of a store. Records are named, not numbered, and an edge may
leave its ends open.
-/

namespace UmlDiagrams

structure StyleOverrides where
  background : Option String := none
  text : Option String := none
  primary : Option String := none
  direction : Option Direction := none
deriving DecidableEq, Repr

structure MessageSpec where
  source : Option String := none
  target : Option String := none
  arrow : Arrow := .sync
  text : String := ""
deriving DecidableEq, Repr

structure SequenceSection where
  actors : List String := []
  messages : List MessageSpec := []
deriving DecidableEq, Repr

structure ClassSpec where
  name : String := ""
  isAbstract : Bool := false
  attributes : List ClassAttribute := []
  methods : List ClassMethod := []
deriving DecidableEq, Repr

/-- A relationship of a kind in `α` between named records. -/
structure RelationSpec (α : Type) where
  source : Option String
  target : Option String
  kind : α
  label : String
deriving DecidableEq, Repr

structure ClassSection where
  classes : List ClassSpec := []
  relationships : List (RelationSpec ClassRelation) := []
deriving DecidableEq, Repr

structure LinkSpec where
  actor : Option String := none
  useCase : Option String := none
deriving DecidableEq, Repr

structure UseCaseSection where
  actors : List String := []
  useCases : List String := []
  links : List LinkSpec := []
deriving DecidableEq, Repr

structure EntitySpec where
  name : String := ""
  attributes : List EntityAttribute := []
deriving DecidableEq, Repr

structure EntitySection where
  entities : List EntitySpec := []
  relationships : List (RelationSpec ErRelation) := []
deriving DecidableEq, Repr

structure FlowSpec where
  source : Option String := none
  target : Option String := none
deriving DecidableEq, Repr

/-- The nodes and edges of an activity or component diagram. -/
structure FlowSection where
  nodes : List String := []
  edges : List FlowSpec := []
deriving DecidableEq, Repr

structure TransitionSpec where
  source : Option String := none
  target : Option String := none
  event : String := ""
deriving DecidableEq, Repr

structure StateSection where
  states : List String := []
  transitions : List TransitionSpec := []
deriving DecidableEq, Repr

structure Document where
  kind : Kind := .sequence
  style : StyleOverrides := {}
  sequence : SequenceSection := {}
  classes : ClassSection := {}
  useCase : UseCaseSection := {}
  entity : EntitySection := {}
  activity : FlowSection := {}
  component : FlowSection := {}
  state : StateSection := {}
deriving DecidableEq, Repr

end UmlDiagrams
