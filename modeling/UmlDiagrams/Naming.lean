import UmlDiagrams.Rejection
import UmlDiagrams.Text.Blank
import UmlDiagrams.Text.Printed
/-!
# Names

Two names are the same when they print alike, and a new name may not equal an existing one.
-/

namespace UmlDiagrams

/-- A name as far as the diagram source can tell names of a collection apart. -/
def printKey (collection : Collection) (name : String) : List Char :=
  let key := (Text.foldChars name.toList).map Text.softenQuote
  if collection = .components then key.map Text.softenBracket else key

def printsLike (collection : Collection) (names : List String) (name : String) : Bool :=
  names.any fun n => printKey collection n == printKey collection name

/-- A name for a new record: trimmed, not empty, and unlike the existing names. -/
def newName (collection : Collection) (names : List String) (name : String) :
    Except Rejection String :=
  let name := Text.trim name
  if name.isEmpty then .error (.emptyName collection)
  else if printsLike collection names name then .error (.duplicateName collection name)
  else .ok name

def requireDistinct (collection other : Collection) (others : List String) (name : String) :
    Except Rejection Unit :=
  if others.any fun n => printKey other n == printKey collection name then
    .error (.nameClash collection other name)
  else .ok ()

def memberName (collection : Collection) (name : String) : Except Rejection String :=
  let name := Text.trim name
  if name.isEmpty then .error (.emptyName collection) else .ok name

end UmlDiagrams
