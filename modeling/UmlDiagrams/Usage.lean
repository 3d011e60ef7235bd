
namespace UmlDiagrams.Usage

def version : String :=
  "umlsmith 0.1.0\n"

def options : List (String × String) :=
  [("-o, --output <OUTPUT>",
      "Output path (.puml, .svg, .png, .pdf or an existing directory); "
        ++ "prints PlantUML when omitted"),
    ("-c, --config <CONFIG>", "Path to configuration file (TOML)"),
    ("-k, --kind <KIND>", "Render this diagram kind instead of the document's"),
    ("    --server <URL>", "Renderer endpoint, overriding the config"),
    ("    --local", "Render with the local plantuml executable instead of the HTTP renderer"),
    ("    --png-scale <PNG_SCALE>", "Raster scale multiplier for PNG output [default: 1]"),
    ("    --log-level <LOG_LEVEL>",
      "Log level (off, error, warn, info, debug, trace) [default: warn]"),
    ("-h, --help", "Print help"),
    ("-V, --version", "Print version")]

def optionLine (option purpose : String) : String :=
  "  " ++ option ++ String.ofList (List.replicate (29 - option.length) ' ') ++ purpose ++ "\n"

def help : String :=
  "Generate PlantUML from diagram documents and render it to SVG, PNG or PDF

Usage: umlsmith [OPTIONS] <INPUT>

Arguments:
  <INPUT>  Diagram document: .toml, .yaml or .json (use \"-\" for stdin)

Options:
" ++ String.join (options.map fun (option, purpose) => optionLine option purpose)

def misuse : String :=
  "error: invalid arguments

Usage: umlsmith [OPTIONS] <INPUT>

For more information, try '--help'.
"

end UmlDiagrams.Usage
