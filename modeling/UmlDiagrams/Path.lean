
namespace UmlDiagrams.Path

def slash : UInt8 := 47

def dot : UInt8 := 46

def segments : List UInt8 → List (List UInt8)
  | [] => [[]]
  | b :: rest =>
    if b = slash then [] :: segments rest
    else
      match segments rest with
      | [] => [[b]]
      | piece :: pieces => (b :: piece) :: pieces

/-- The steps that the system takes along a path. Slashes may be repeated. -/
def steps (path : List UInt8) : List (List UInt8) :=
  (segments path).filter (· ≠ [])

/-- The components that lead somewhere. -/
def components (path : List UInt8) : List (List UInt8) :=
  (segments path).filter fun c => c ≠ [] && c ≠ [dot]

/-- The last component, unless it is `..` or there is none. -/
def fileName? (path : List UInt8) : Option (List UInt8) := do
  let last ← (components path).getLast?
  guard (last ≠ [dot, dot])
  return last

/-- What follows the last dot of the file name; a dot in front does not count. -/
def extension? (path : List UInt8) : Option (List UInt8) := do
  let name ← fileName? path
  let extension := (name.reverse.takeWhile (· ≠ dot)).reverse
  guard (extension.length + 1 < name.length)
  return extension

def textExtension? (path : List UInt8) : Option String := do
  let extension ← extension? path
  let text ← String.fromUTF8? ⟨extension.toArray⟩
  return String.ofList (text.toList.map Char.toLower)

def ofText (path : String) : List UInt8 :=
  path.toUTF8.toList

end UmlDiagrams.Path
