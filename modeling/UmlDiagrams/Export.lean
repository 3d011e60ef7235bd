import UmlDiagrams.Decimal.Single
import UmlDiagrams.OutputFormat

namespace UmlDiagrams

/-- How pictures are converted; a failure comes with its reason. -/
structure Converters where
  png : ByteArray → Single → Except String ByteArray
  pdf : ByteArray → Except String ByteArray

inductive ExportError where
  | invalidScale (scale : Single)
  | conversion (reason : String)
  | notWritten (path reason : String)
deriving DecidableEq, Repr

def ExportError.message : ExportError → String
  | invalidScale scale => "Invalid --png-scale value: " ++ scale.toText
  | conversion reason => reason
  | notWritten path reason => "Failed to write " ++ path ++ ": " ++ reason

namespace OutputFormat

/-- The content of a file for a picture. The scale matters for PNG only. -/
def encode (format : OutputFormat) (converters : Converters) (scale : Single)
    (picture : ByteArray) : Except ExportError ByteArray :=
  match format with
  | .source | .svg => .ok picture
  | .png =>
    if scale.isPositive then (converters.png picture scale).mapError .conversion
    else .error (.invalidScale scale)
  | .pdf => (converters.pdf picture).mapError .conversion

end OutputFormat

end UmlDiagrams
