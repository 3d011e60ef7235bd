import UmlDiagrams.Graph.Edits
import UmlDiagrams.Reply
/-!
# Use-case diagrams

Actors, use cases, and the links from actors to use cases. Actors and use cases share one space of
printed names.
-/

namespace UmlDiagrams

structure UseCaseLink where
  id : Id
  actor : String
  useCase : String
deriving DecidableEq, Repr

structure UseCaseDiagram where
  actors : List String := []
  useCases : List String := []
  links : List UseCaseLink := []
  issued : Nat := 0
  changes : List Collection := []
deriving DecidableEq, Repr

inductive UseCaseEdit where
  | addActor (name : String)
  | removeActor (name : String)
  | addUseCase (name : String)
  | removeUseCase (name : String)
  | addLink (actor useCase : Option String)
  | removeLink (id : Id)
deriving DecidableEq, Repr

namespace UseCaseDiagram

def isEmpty (d : UseCaseDiagram) : Bool :=
  d.actors.isEmpty && d.useCases.isEmpty && d.links.isEmpty

def touch (touched : List Collection) (d : UseCaseDiagram) : UseCaseDiagram :=
  { d with changes := notice d.changes touched }

/-- The name of a new actor. It is compared with the actors twice: among themselves, and as if it
were the name of a use case. -/
def newActor (d : UseCaseDiagram) (name : String) : Except Rejection String := do
  let name ← newName .useCaseActors d.actors name
  requireDistinct .useCaseActors .useCases d.useCases name
  requireDistinct .useCases .useCaseActors d.actors name
  return name

def newUseCase (d : UseCaseDiagram) (name : String) : Except Rejection String := do
  let name ← newName .useCases d.useCases name
  requireDistinct .useCases .useCaseActors d.actors name
  return name

def newEnds (d : UseCaseDiagram) (actor useCase : Option String) :
    Except Rejection (String × String) := do
  requireNodes .useCaseActors 1 d.actors.length
  requireNodes .useCases 1 d.useCases.length
  let actor ← pickEnd .useCaseActors .name d.actors actor 0
  let useCase ← pickEnd .useCases .name d.useCases useCase 0
  return (actor, useCase)

def nextId (d : UseCaseDiagram) : Id :=
  ⟨.useCase, d.issued⟩

def countId (d : UseCaseDiagram) : UseCaseDiagram :=
  { d with issued := d.issued + 1 }

def withActor (name : String) (d : UseCaseDiagram) : UseCaseDiagram :=
  { d with actors := d.actors ++ [name] }

def withUseCase (name : String) (d : UseCaseDiagram) : UseCaseDiagram :=
  { d with useCases := d.useCases ++ [name] }

def withoutActor (name : String) (d : UseCaseDiagram) : UseCaseDiagram :=
  { d with actors := d.actors.filter fun n => n ≠ name }

def withoutUseCase (name : String) (d : UseCaseDiagram) : UseCaseDiagram :=
  { d with useCases := d.useCases.filter fun n => n ≠ name }

def withoutLinksFrom (name : String) (d : UseCaseDiagram) : UseCaseDiagram :=
  { d with links := d.links.filter fun l => l.actor ≠ name }

def withoutLinksTo (name : String) (d : UseCaseDiagram) : UseCaseDiagram :=
  { d with links := d.links.filter fun l => l.useCase ≠ name }

def withLink (link : UseCaseLink) (d : UseCaseDiagram) : UseCaseDiagram :=
  { d with links := d.links ++ [link] }

def withoutLink (id : Id) (d : UseCaseDiagram) : UseCaseDiagram :=
  { d with links := d.links.filter fun l => l.id ≠ id }

def note (touched : List Collection) : Editing UseCaseDiagram Unit :=
  modify (touch touched)

def issue : Editing UseCaseDiagram Id :=
  modifyGet fun d => (d.nextId, d.countId)

def addActor (name : String) : Editing UseCaseDiagram Unit := do
  let name ← (← get).newActor name
  modify (withActor name)
  note [.useCaseActors]

def addUseCase (name : String) : Editing UseCaseDiagram Unit := do
  let name ← (← get).newUseCase name
  modify (withUseCase name)
  note [.useCases]

def removeActor (name : String) : Editing UseCaseDiagram Bool := do
  let before := (← get).actors.length
  modify (withoutActor name)
  if (← get).actors.length = before then return false
  modify (withoutLinksFrom name)
  note [.useCaseActors, .useCaseLinks]
  return true

def removeUseCase (name : String) : Editing UseCaseDiagram Bool := do
  let before := (← get).useCases.length
  modify (withoutUseCase name)
  if (← get).useCases.length = before then return false
  modify (withoutLinksTo name)
  note [.useCases, .useCaseLinks]
  return true

def addLink (actor useCase : Option String) : Editing UseCaseDiagram Id := do
  let (actor, useCase) ← (← get).newEnds actor useCase
  let id ← issue
  modify (withLink ⟨id, actor, useCase⟩)
  note [.useCaseLinks]
  return id

def removeLink (id : Id) : Editing UseCaseDiagram Bool := do
  let before := (← get).links.length
  modify (withoutLink id)
  let removed := (← get).links.length != before
  if removed then note [.useCaseLinks]
  return removed

def apply : UseCaseEdit → Editing UseCaseDiagram Reply
  | .addActor name => do
    addActor name
    return .done
  | .removeActor name => return .removed (← removeActor name)
  | .addUseCase name => do
    addUseCase name
    return .done
  | .removeUseCase name => return .removed (← removeUseCase name)
  | .addLink actor useCase => return .created (← addLink actor useCase)
  | .removeLink id => return .removed (← removeLink id)

def clear (d : UseCaseDiagram) : UseCaseDiagram :=
  touch [.useCaseActors, .useCases, .useCaseLinks]
    { d with actors := [], useCases := [], links := [] }

end UseCaseDiagram

end UmlDiagrams
