import UmlDiagrams.Decimal.Single
import UmlDiagrams.Kind
/-!
# Command-line arguments

An argument is the input path, an option with its value, or a flag. Options have long names, and
some also have a letter. A value is part of the same argument or is the next one, which then must
not look like an option. Nothing is given twice.
-/

namespace UmlDiagrams

/-- What a run of the program is asked to do. -/
structure Arguments where
  /-- The path of the document; `-` is the standard input. -/
  input : String
  output : Option String := none
  config : Option String := none
  kind : Option Kind := none
  server : Option String := none
  isLocal : Bool := false
  scale : Single := .finite false Single.one
  logLevel : String := "warn"
deriving DecidableEq, Repr

inductive Stop where
  | help
  | version
  | misuse
deriving DecidableEq, Repr

inductive Setting where
  | output | config | kind | server | scale | logLevel
deriving DecidableEq, Repr

namespace Setting

def longNames : List (String × Setting) :=
  [("output", output), ("config", config), ("kind", kind), ("server", server),
    ("png-scale", scale), ("log-level", logLevel)]

def letters : List (Char × Setting) :=
  [('o', output), ('c', config), ('k', kind)]

end Setting

inductive Argument where
  | plain (text : String)
  /-- An option, with its value if that is part of the argument. -/
  | setting (name : Setting) (value : Option String)
  | isLocal
  | stop (reason : Stop)
  /-- After this all arguments are plain. -/
  | divider
deriving DecidableEq, Repr

namespace Argument

def ofLong (name : String) (value : Option String) : Argument :=
  match Setting.longNames.lookup name, name, value with
  | some s, _, _ => setting s value
  | none, "local", none => isLocal
  | none, "help", none => stop .help
  | none, "version", none => stop .version
  | none, _, _ => stop .misuse

/-- A letter and what follows it, where an equals sign may divide the two. -/
def ofLetter (letter : Char) (rest : List Char) : Argument :=
  match Setting.letters.lookup letter, letter, rest with
  | some s, _, [] => setting s none
  | some s, _, '=' :: value => setting s (some (String.ofList value))
  | some s, _, value => setting s (some (String.ofList value))
  | none, 'h', _ => stop .help
  | none, 'V', _ => stop .version
  | none, _, _ => stop .misuse

def read (s : String) : Argument :=
  match s.toList with
  | ['-', '-'] => divider
  | '-' :: '-' :: cs =>
    let name := String.ofList (cs.takeWhile (· ≠ '='))
    match cs.dropWhile (· ≠ '=') with
    | [] => ofLong name none
    | _ :: value => ofLong name (some (String.ofList value))
  | '-' :: letter :: rest => ofLetter letter rest
  | _ => plain s

end Argument

namespace Arguments

/-- What was given so far. -/
structure Given where
  input : Option String := none
  output : Option String := none
  config : Option String := none
  kind : Option Kind := none
  server : Option String := none
  isLocal : Option Unit := none
  scale : Option Single := none
  logLevel : Option String := none

/-- Fills a place that has to be empty with a value that has to be valid. -/
def fill {α : Type} (place value : Option α) : Except Stop (Option α) :=
  match place, value with
  | none, some a => .ok (some a)
  | _, _ => .error .misuse

/-- A path as an argument is not empty. -/
def path? (s : String) : Option String :=
  if s.isEmpty then none else some s

namespace Given

def setInput (g : Given) (s : String) : Except Stop Given :=
  return { g with input := ← fill g.input (path? s) }

def set (g : Given) (name : Setting) (value : String) : Except Stop Given :=
  match name with
  | .output => return { g with output := ← fill g.output (path? value) }
  | .config => return { g with config := ← fill g.config (path? value) }
  | .kind => return { g with kind := ← fill g.kind (Kind.ofTyped value).toOption }
  | .server => return { g with server := ← fill g.server (some value) }
  | .scale => return { g with scale := ← fill g.scale (Single.parse? value) }
  | .logLevel => return { g with logLevel := ← fill g.logLevel (some value) }

def setLocal (g : Given) : Except Stop Given :=
  return { g with isLocal := ← fill g.isLocal (some ()) }

/-- The arguments, if there is an input. The others have usual values. -/
def arguments (g : Given) : Except Stop Arguments :=
  match g.input with
  | none => .error .misuse
  | some input =>
    let usual : Arguments := { input }
    .ok { usual with
      output := g.output
      config := g.config
      kind := g.kind
      server := g.server
      isLocal := g.isLocal.isSome
      scale := g.scale.getD usual.scale
      logLevel := g.logLevel.getD usual.logLevel }

end Given

/-- Takes the arguments one after the other. The first fault, or request to show a text, ends it. -/
def collect (g : Given) : List String → Except Stop Given
  | [] => .ok g
  | s :: rest =>
    match Argument.read s with
    | .plain s => do collect (← g.setInput s) rest
    | .isLocal => do collect (← g.setLocal) rest
    | .stop reason => .error reason
    | .divider => rest.foldlM Given.setInput g
    | .setting name (some value) => do collect (← g.set name value) rest
    | .setting name none =>
      match rest with
      | [] => .error .misuse
      | value :: rest =>
        match Argument.read value with
        | .plain value => do collect (← g.set name value) rest
        | _ => .error .misuse

def parse (args : List String) : Except Stop Arguments := do
  (← collect {} args).arguments

end Arguments

end UmlDiagrams
