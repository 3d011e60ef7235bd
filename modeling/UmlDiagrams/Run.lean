import UmlDiagrams.Files
import UmlDiagrams.Program
/-!
# Runs on a tree of files

Whole runs of the program, with the files before and after. The renderer and the converters write no
files, and a write happens whole or not at all.
-/

namespace UmlDiagrams

/-- What surrounds a run, the files apart. -/
structure Surroundings where
  input : ByteArray
  renderers : Renderers
  converters : Converters
  now : Instant

namespace Surroundings

def machine (s : Surroundings) (files : Files) : Machine :=
  { isFile := files.isFile
    isDirectory := files.isDirectory
    read := fun path => (files.read path).mapError FileError.message
    input := s.input
    render := s.renderers.render
    converters := s.converters
    now := s.now }

end Surroundings

def Plan.carryOut (plan : Plan) (files : Files) : Except Failure Files :=
  match plan.file? with
  | none => .ok files
  | some (path, content) => (files.write path content).mapError fun e => plan.refused e.message

namespace Surroundings

/-- A run with arguments that were read, and the files after it. -/
def execute (s : Surroundings) (files : Files) (args : Arguments) : Outcome × Files :=
  match (s.machine files).plan args with
  | .error failure => (args.conclude failure.outcome, files)
  | .ok plan =>
    match plan.carryOut files with
    | .error failure => (args.conclude failure.outcome, files)
    | .ok changed => (args.conclude plan.outcome, changed)

/-- A run of the program, and the files after it. -/
def run (s : Surroundings) (files : Files) (args : List String) : Outcome × Files :=
  match Arguments.parse args with
  | .error stop => (stop.outcome, files)
  | .ok args => s.execute files args

end Surroundings

end UmlDiagrams
