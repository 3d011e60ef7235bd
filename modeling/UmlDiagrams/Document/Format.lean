import UmlDiagrams.Document.Decode
import UmlDiagrams.Json.Reader
import UmlDiagrams.Toml.Reader
import UmlDiagrams.Yaml.Reader

namespace UmlDiagrams

inductive DocumentFormat where
  | toml | yaml | json
deriving DecidableEq, Repr

namespace DocumentFormat

def title : DocumentFormat → String
  | toml => "TOML"
  | yaml => "YAML"
  | json => "JSON"

def extensions : List (String × DocumentFormat) :=
  [("toml", toml), ("yaml", yaml), ("yml", yaml), ("json", json)]

end DocumentFormat

namespace Document

/-- Reads a document in a given format. -/
def parse? (format : DocumentFormat) (text : String) : Option Document :=
  match format with
  | .toml => (Toml.parse? text).bind (decode Toml.reader)
  | .yaml => (Yaml.parse? text).bind fun tree => tree.read? (decode Yaml.reader)
  | .json => (Json.parse? text).bind (decode Json.reader)

def read (format : DocumentFormat) (text : String) : Except DocumentFormat Document :=
  match parse? format text with
  | some document => .ok document
  | none => .error format

/-- Reads a document whose format is not known: TOML, or else YAML. -/
def readUnknown (text : String) : Except DocumentFormat Document :=
  match parse? .toml text with
  | some document => .ok document
  | none => read .yaml text

/-- Reads the document in a file, whose extension may tell the format. -/
def readByExtension (extension? : Option String) (text : String) : Except DocumentFormat Document :=
  match extension?.bind fun extension => DocumentFormat.extensions.lookup extension with
  | some format => read format text
  | none => readUnknown text

end Document

end UmlDiagrams
