import UmlDiagrams.Graph.Edits
import UmlDiagrams.Reply

namespace UmlDiagrams

inductive Arrow where
  | sync | reply | async
deriving DecidableEq, Repr, Inhabited

namespace Arrow

def symbol : Arrow → String
  | sync => "->"
  | reply => "-->"
  | async => "->>"

def spellings : List (String × Arrow) :=
  [("->", sync), ("sync", sync), ("-->", reply), ("reply", reply), ("->>", async),
    ("async", async)]

end Arrow

/-- What a message carries besides its ends. -/
structure Message where
  arrow : Arrow
  text : String
deriving DecidableEq, Repr

abbrev SequenceDiagram := Graph String String Message

inductive SequenceEdit where
  | addActor (name : String)
  | removeActor (name : String)
  | addMessage (source target : Option String) (arrow : Arrow) (text : String)
  | removeMessage (id : Id)
  | retarget (id : Id) (source target : String)
  | setArrow (id : Id) (arrow : Arrow)
  | setText (id : Id) (text : String)
deriving DecidableEq, Repr

namespace SequenceDiagram

def rules : Rules String String Message :=
  .byName .sequence .actors .messages

def apply : SequenceEdit → Editing SequenceDiagram Reply
  | .addActor name => do
    let _ ← Graph.addNode rules name fun _ n => n
    return .done
  | .removeActor name => return .removed (← Graph.removeNode rules name)
  | .addMessage source target arrow text =>
    return .created (← Graph.addEdge rules source target ⟨arrow, text⟩)
  | .removeMessage id => return .removed (← Graph.removeEdge rules id)
  | .retarget id source target => do
    Graph.retarget rules id source target
    return .done
  | .setArrow id arrow => do
    Graph.reviseEdge rules id ({ · with arrow })
    return .done
  | .setText id text => do
    Graph.reviseEdge rules id ({ · with text })
    return .done

end SequenceDiagram

end UmlDiagrams
