import UmlDiagrams.Graph.Edits
import UmlDiagrams.Reply

namespace UmlDiagrams

abbrev FlowDiagram := Graph String String Unit

inductive FlowEdit where
  | addNode (name : String)
  | removeNode (name : String)
  | addEdge (source target : Option String)
  | removeEdge (id : Id)
deriving DecidableEq, Repr

namespace FlowDiagram

def activityRules : Rules String String Unit :=
  .byName .activity .activities .activityFlows

def componentRules : Rules String String Unit :=
  .byName .component .components .componentDependencies

def apply (R : Rules String String Unit) : FlowEdit → Editing FlowDiagram Reply
  | .addNode name => do
    let _ ← Graph.addNode R name fun _ n => n
    return .done
  | .removeNode name => return .removed (← Graph.removeNode R name)
  | .addEdge source target => return .created (← Graph.addEdge R source target ())
  | .removeEdge id => return .removed (← Graph.removeEdge R id)

end FlowDiagram

end UmlDiagrams
