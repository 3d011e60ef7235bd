import UmlDiagrams.Arguments
import UmlDiagrams.Config
import UmlDiagrams.Failure
import UmlDiagrams.Renderer
import UmlDiagrams.Usage
/-!
# The program

A run reads a configuration and a document, and prints the source of the diagram or saves it, or its
picture, to one file. All that can fail but the writing is done first and ends in a plan, so a
failed run has neither printed nor changed anything.
-/

namespace UmlDiagrams

/-- What a run finds around it. Reasons for failures are texts. -/
structure Machine where
  isFile : String → Bool
  isDirectory : String → Bool
  read : String → Except String ByteArray
  /-- What the standard input holds. -/
  input : ByteArray
  render : Renderer → String → Except RenderFailure ByteArray
  converters : Converters
  now : Instant

/-- What a run is going to do when all went well so far. -/
inductive Plan where
  | print (source : String)
  | saveSource (path source : String)
  | savePicture (path : String) (content : ByteArray)

/-- What is seen of a run that ended. -/
structure Outcome where
  exitCode : Nat
  output : String := ""
  /-- The lines of the error output. -/
  errors : List String := []
deriving DecidableEq, Repr

namespace Machine

def textOf (content : ByteArray) : Except String String :=
  match String.fromUTF8? content with
  | some text => .ok text
  | none => .error "stream did not contain valid UTF-8"

def readText (m : Machine) (path : String) : Except String String := do
  textOf (← m.read path)

/-- The settings in a file, or the usual ones without a path. -/
def config (m : Machine) : Option String → Except Failure Config
  | none => .ok {}
  | some path => do
    if !m.isFile path then throw (.noConfig path)
    let text ← (m.readText path).mapError .unreadableConfig
    match Config.parse? text with
    | some config => return config
    | none => throw .malformedConfig

/-- The document at a path, where `-` stands for the standard input. -/
def document (m : Machine) (path : String) : Except Failure Document := do
  if path = "-" then
    let text ← (textOf m.input).mapError .unreadableInput
    (Document.readUnknown text).mapError .malformedDocument
  else
    let text ← (m.readText path).mapError (.unreadableDocument path)
    let extension? := Path.textExtension? (Path.ofText path)
    (Document.readByExtension extension? text).mapError .malformedDocument

/-- A session on the document, in the style of the configuration where it names no other. -/
def session (m : Machine) (config : Config) (args : Arguments) : Except Failure Session := do
  let document ← m.document args.input
  let style ← config.style.validated.mapError .style
  let (store, outcome) := document.apply { style }
  outcome.mapError .document
  let session : Session := { store }
  return match args.kind with
    | none => session
    | some kind => session.setKind kind

def renderer (config : Config) (args : Arguments) : Renderer :=
  if args.isLocal then .command config.renderer.command
  else .service (args.server.getD config.renderer.url) config.renderer.timeout

def join (directory name : String) : String :=
  if directory.toList.getLast? = some '/' then directory ++ name else directory ++ "/" ++ name

/-- The format of the output; a directory gets an SVG image. -/
def outputFormat (m : Machine) (output : String) : Except Failure OutputFormat :=
  if m.isDirectory output then .ok .svg
  else (OutputFormat.ofPath (Path.ofText output)).mapError .outputFormat

def plan (m : Machine) (args : Arguments) : Except Failure Plan := do
  let config ← m.config args.config
  let session ← m.session config args
  match args.output with
  | none => return .print session.store.source
  | some output =>
    let format ← m.outputFormat output
    if !format.needsRender then return .saveSource output session.store.source
    let render := m.render (renderer config args)
    let rendered ← ((Session.generate render m.now).outcome session).mapError .generation
    let path := if m.isDirectory output then join output rendered.fileName else output
    let content ← (format.encode m.converters args.scale rendered.content).mapError .unsavedPicture
    return .savePicture path content

end Machine

namespace Plan

def file? : Plan → Option (String × ByteArray)
  | print _ => none
  | saveSource path source => some (path, source.toUTF8)
  | savePicture path content => some (path, content)

/-- What is seen when the plan was carried out. -/
def outcome : Plan → Outcome
  | print source => { exitCode := 0, output := source }
  | saveSource path _ => { exitCode := 0, errors := ["PlantUML saved to: " ++ path] }
  | savePicture path _ => { exitCode := 0, errors := ["Diagram saved to: " ++ path] }

def refused (reason : String) : Plan → Failure
  | savePicture path _ => .unsavedPicture (.notWritten path reason)
  | print _ | saveSource _ _ => .unsavedSource reason

end Plan

namespace Failure

def outcome (f : Failure) : Outcome :=
  { exitCode := 1, errors := [f.report] }

end Failure

namespace Stop

def outcome : Stop → Outcome
  | help => { exitCode := 0, output := Usage.help }
  | version => { exitCode := 0, output := Usage.version }
  | misuse => { exitCode := 2, errors := [Usage.misuse] }

end Stop

namespace Arguments

def logLevels : List String :=
  ["off", "error", "warn", "info", "debug", "trace"]

def complaints (args : Arguments) : List String :=
  if String.ofList (args.logLevel.toList.map Char.toLower) ∈ logLevels then []
  else ["Invalid log level: " ++ args.logLevel ++ ". Using 'warn' instead."]

end Arguments

def Arguments.conclude (args : Arguments) (ending : Outcome) : Outcome :=
  { ending with errors := args.complaints ++ ending.errors }

end UmlDiagrams
