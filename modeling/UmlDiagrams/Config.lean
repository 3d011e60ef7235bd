import UmlDiagrams.Document.Decode
import UmlDiagrams.Toml.Reader

namespace UmlDiagrams

/-- How to reach a renderer: a service, or a command of this machine. -/
structure RendererConfig where
  url : String := "http://localhost:3000/generate"
  /-- How many seconds to wait for the service. -/
  timeout : Option Nat := none
  command : String := "plantuml"
deriving DecidableEq, Repr

structure Config where
  renderer : RendererConfig := {}
  /-- The style as written, its colors not yet read as such. -/
  style : Style := {}
deriving DecidableEq, Repr

namespace RendererConfig

def shape : Shape := { fields := ["url", "timeout_secs", "plantuml"] }

def decode? (value : Toml) : Option RendererConfig := do
  let fields ← Toml.reader.fields shape value
  let usual : RendererConfig := {}
  return {
    url := ← readField fields "url" usual.url Toml.text?
    timeout := ← readField fields "timeout_secs" none fun v => (Toml.natural? v).map some
    command := ← readField fields "plantuml" usual.command Toml.text? }

end RendererConfig

namespace Config

def shape : Shape := { fields := ["gateway", "style"] }

def decode? (value : Toml) : Option Config := do
  let fields ← Toml.reader.fields shape value
  return {
    renderer := ← readField fields "gateway" {} RendererConfig.decode?
    style := ← readField fields "style" {} (Style.decode Toml.reader) }

def parse? (text : String) : Option Config :=
  (Toml.parse? text).bind decode?

end Config

end UmlDiagrams
