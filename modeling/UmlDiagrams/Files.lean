import UmlDiagrams.Path
/-!
# Files

A tree of files and directories under a root, and what reading and writing at a path does to it. A
path starts from the root if it starts with a slash, and else from the working directory.
-/

namespace UmlDiagrams

/-- Why the system refuses to read or write a file. -/
inductive FileError where
  | missing
  | denied
  | noDirectory
  | isDirectory
  | nameTooLong
  | zeroByte
deriving DecidableEq, Repr

def FileError.message : FileError → String
  | missing => "No such file or directory (os error 2)"
  | denied => "Permission denied (os error 13)"
  | noDirectory => "Not a directory (os error 20)"
  | isDirectory => "Is a directory (os error 21)"
  | nameTooLong => "File name too long (os error 36)"
  | zeroByte => "file name contained an unexpected NUL byte"

inductive FileNode where
  | directory
  | file (content : ByteArray) (executable : Bool)

/-- What a run may want to do at a place. -/
inductive Access where
  | enter | read | write
deriving DecidableEq, Repr

/-- Files and directories by their places, which are the names on the way from the root. -/
structure Files where
  nodes : List (List (List UInt8) × FileNode) := []
  /-- The place of the working directory. -/
  here : List (List UInt8) := []
  permits : Access → List (List UInt8) → Bool := fun _ _ => true

namespace Files

def node? (f : Files) (place : List (List UInt8)) : Option FileNode :=
  if place = [] then some .directory else f.nodes.lookup place

def insert (f : Files) (place : List (List UInt8)) (node : FileNode) : Files :=
  { f with nodes := (place, node) :: f.nodes.filter (·.1 ≠ place) }

/-- Where a step from a directory leads. The root is its own parent. -/
def step (place : List (List UInt8)) (name : List UInt8) : List (List UInt8) :=
  if name = [Path.dot] then place
  else if name = [Path.dot, Path.dot] then place.dropLast
  else place ++ [name]

/-- Goes on from a place. There has to be a directory wherever a step starts. -/
def walk (f : Files) : List (List UInt8) → List (List UInt8) → Except FileError (List (List UInt8))
  | place, [] => .ok place
  | place, name :: rest =>
    match f.node? place with
    | none => .error .missing
    | some (.file _ _) => .error .noDirectory
    | some .directory =>
      if !f.permits .enter place then .error .denied
      else if name.length > 255 then .error .nameTooLong
      else f.walk (step place name) rest

def locate (f : Files) (path : String) : Except FileError (List (List UInt8)) :=
  let bytes := Path.ofText path
  if 0 ∈ bytes then .error .zeroByte
  else if bytes.length ≥ 4096 then .error .nameTooLong
  else if bytes = [] then .error .missing
  else f.walk (if bytes.head? = some Path.slash then [] else f.here) (Path.steps bytes)

def endsInSlash (path : String) : Bool :=
  (Path.ofText path).getLast? == some Path.slash

def find (f : Files) (path : String) : Except FileError FileNode := do
  let place ← f.locate path
  match f.node? place with
  | none => throw .missing
  | some .directory => return .directory
  | some node => if endsInSlash path then throw .noDirectory else return node

def isFile (f : Files) (path : String) : Bool :=
  match f.find path with
  | .ok (.file _ _) => true
  | _ => false

def isDirectory (f : Files) (path : String) : Bool :=
  match f.find path with
  | .ok .directory => true
  | _ => false

def read (f : Files) (path : String) : Except FileError ByteArray := do
  let node ← f.find path
  if !f.permits .read (← f.locate path) then throw .denied
  match node with
  | .directory => throw .isDirectory
  | .file content _ => return content

/-- The place of the file that is written at a path. It need not exist, but its directory does. -/
def target (f : Files) (path : String) : Except FileError (List (List UInt8)) := do
  let place ← f.locate path
  match f.node? place with
  | some .directory => throw .isDirectory
  | _ =>
    if endsInSlash path then throw .isDirectory
    else if !f.permits .write place then throw .denied
    else return place

/-- Writes a file. A new file cannot be executed. -/
def write (f : Files) (path : String) (content : ByteArray) : Except FileError Files := do
  let place ← f.target path
  let executable := match f.node? place with
    | some (.file _ executable) => executable
    | _ => false
  return f.insert place (.file content executable)

end Files

end UmlDiagrams
