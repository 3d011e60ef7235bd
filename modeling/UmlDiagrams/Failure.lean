import UmlDiagrams.Document.Format
import UmlDiagrams.Document.Replay
import UmlDiagrams.Export
import UmlDiagrams.Session
import UmlDiagrams.Text.Literal

namespace UmlDiagrams

inductive Failure where
  | noConfig (path : String)
  | unreadableConfig (reason : String)
  | malformedConfig
  | unreadableInput (reason : String)
  | unreadableDocument (path reason : String)
  | malformedDocument (f : DocumentFormat)
  /-- The style of the configuration is refused. -/
  | style (rejection : Rejection)
  /-- An entry of the document is refused. -/
  | document (error : ReplayError)
  | outputFormat (error : FormatError)
  | unsavedSource (reason : String)
  | generation (error : GenerateError)
  | unsavedPicture (error : ExportError)
deriving DecidableEq, Repr

namespace Failure

/-- Documents and configurations refer to records by name, so no message shows an identifier. -/
def showId (_ : Id) : String :=
  ""

def message : Failure → String
  | noConfig path => "config file not found: " ++ path
  | unreadableConfig reason => "failed to read config: " ++ reason
  | malformedConfig => "failed to parse config TOML: not a configuration"
  | unreadableInput reason => "Failed to read from stdin: " ++ reason
  | unreadableDocument path reason => "failed to read " ++ path ++ ": " ++ reason
  | malformedDocument f => "failed to parse document: " ++ f.title ++ ": not a document"
  | style rejection => "Invalid style in config: " ++ rejection.message showId
  | document error => "Invalid document: " ++ error.message showId
  | outputFormat error => error.message
  | unsavedSource reason => "Failed to write PlantUML: " ++ reason
  | generation error => error.message
  | unsavedPicture error => error.message

def report (f : Failure) : String :=
  "Error: " ++ Text.literal f.message

end Failure

end UmlDiagrams
