import UmlDiagrams.Graph.Edits
import UmlDiagrams.Reply

namespace UmlDiagrams

abbrev StateDiagram := Graph String String String

inductive StateEdit where
  | addState (name : String)
  | removeState (name : String)
  | addTransition (source target : Option String) (event : String)
  | removeTransition (id : Id)
  | setEvent (id : Id) (event : String)
deriving DecidableEq, Repr

namespace StateDiagram

def rules : Rules String String String :=
  .byName .state .states .stateTransitions

def apply : StateEdit → Editing StateDiagram Reply
  | .addState name => do
    let _ ← Graph.addNode rules name fun _ n => n
    return .done
  | .removeState name => return .removed (← Graph.removeNode rules name)
  | .addTransition source target event =>
    return .created (← Graph.addEdge rules source target event)
  | .removeTransition id => return .removed (← Graph.removeEdge rules id)
  | .setEvent id event => do
    Graph.reviseEdge rules id fun _ => event
    return .done

end StateDiagram

end UmlDiagrams
