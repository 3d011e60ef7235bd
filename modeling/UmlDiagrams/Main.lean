import UmlDiagrams.Files
import UmlDiagrams.Program
/-!
# Command line

Finds out what a run has to know of its machine, plans the run and carries the plan out. No renderer
is connected, so runs that need a picture fail and the time is never looked at.
-/

namespace UmlDiagrams

def systemReason : IO.Error → String
  | .noFileOrDirectory _ _ _ => FileError.missing.message
  | .permissionDenied _ _ _ => FileError.denied.message
  | .inappropriateType _ code _ =>
    if code = 20 then FileError.noDirectory.message else FileError.isDirectory.message
  | error => toString error

def contentAt (path : String) : IO (Except IO.Error ByteArray) := do
  try return .ok (← IO.FS.readBinFile path)
  catch error => return .error error

def isFile : Except IO.Error ByteArray → Bool
  | .ok _ | .error (.permissionDenied _ _ _) => true
  | .error _ => false

def isDirectory : Except IO.Error ByteArray → Bool
  | .error (.inappropriateType _ code _) => code = 21
  | _ => false

/-- The machine as far as a run with these arguments looks at it. -/
def machineFor (args : Arguments) : IO Machine := do
  let paths := [args.input] ++ args.config.toList ++ args.output.toList
  let found ← paths.mapM fun path => return (path, ← contentAt path)
  let contentOf (path : String) : Except IO.Error ByteArray :=
    (found.lookup path).getD (.error (.otherError 0 ""))
  let input ← if args.input = "-" then (← IO.getStdin).readBinToEnd else pure .empty
  return {
    isFile := fun path => UmlDiagrams.isFile (contentOf path)
    isDirectory := fun path => UmlDiagrams.isDirectory (contentOf path)
    read := fun path => (contentOf path).mapError systemReason
    input
    render := fun _ _ => .error (.io "no renderer is connected")
    converters := { png := fun _ _ => .error "no converter", pdf := fun _ => .error "no converter" }
    now := ⟨0, 0⟩ }

def Plan.write (plan : Plan) : IO (Except Failure Unit) := do
  match plan.file? with
  | none => return .ok ()
  | some (path, content) =>
    try
      IO.FS.writeBinFile path content
      return .ok ()
    catch error => return .error (plan.refused (systemReason error))

def outcomeOf (words : List String) : IO Outcome := do
  match Arguments.parse words with
  | .error stop => return stop.outcome
  | .ok args =>
    match (← machineFor args).plan args with
    | .error failure => return args.conclude failure.outcome
    | .ok plan =>
      match ← plan.write with
      | .error failure => return args.conclude failure.outcome
      | .ok () => return args.conclude plan.outcome

end UmlDiagrams

def main (words : List String) : IO UInt32 := do
  let outcome ← UmlDiagrams.outcomeOf words
  for line in outcome.errors do
    IO.eprintln line
  IO.print outcome.output
  return outcome.exitCode.toUInt32
