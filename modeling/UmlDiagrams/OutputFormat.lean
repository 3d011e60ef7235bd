import UmlDiagrams.Path

namespace UmlDiagrams

inductive OutputFormat where
  /-- The diagram source itself. -/
  | source
  | svg | png | pdf
deriving DecidableEq, Repr

/-- Why a path has no output format. -/
inductive FormatError where
  | noExtension
  | unsupported (extension : String)
deriving DecidableEq, Repr

def FormatError.message : FormatError → String
  | noExtension => "Output file has no extension"
  | unsupported extension =>
    "Unsupported output format: ." ++ extension ++ " (use .puml, .svg, .png or .pdf)"

namespace OutputFormat

def extensions : List (String × OutputFormat) :=
  [("puml", source), ("plantuml", source), ("txt", source), ("svg", svg), ("png", png),
    ("pdf", pdf)]

def ofPath (path : List UInt8) : Except FormatError OutputFormat :=
  match Path.textExtension? path with
  | none => .error .noExtension
  | some extension =>
    match extensions.lookup extension with
    | some format => .ok format
    | none => .error (.unsupported extension)

def needsRender (format : OutputFormat) : Bool :=
  format ≠ source

end OutputFormat

end UmlDiagrams
