import UmlDiagrams.Toml.Bare
import UmlDiagrams.Toml.Token
/-!
# Reading of TOML text

The tokens of a text are read one by one, with the values that are still open on a stack. Values in
brackets or braces may be broken into lines. Values and dotted keys are nested up to a limit.
-/

namespace UmlDiagrams.Toml

/-- A value that has been opened. -/
inductive Frame where
  /-- The value of a line with this key. -/
  | line (path : Path)
  /-- A list, the last item first. -/
  | list (items : List Toml)
  | braces (entries : List (String × Toml))
  /-- A table in braces together with the key whose value comes next. -/
  | entry (entries : List (String × Toml)) (path : Path)

inductive Place where
  | line
  | header (repeated : Bool)
  | braces (frames : List Frame) (entries : List (String × Toml))

inductive Mode where
  | lineStart
  /-- The first bracket of a header. -/
  | bracket
  /-- A key comes next, after the given parts of a dotted key. -/
  | keyDue (place : Place) (parents : List String)
  | keyRead (place : Place) (path : Path)
  /-- A key in braces and a line break. -/
  | equalsDue (frames : List Frame) (entries : List (String × Toml)) (path : Path)
  /-- The first closing bracket of a repeated header. -/
  | closing (path : Path)
  | lineEnd
  | valueDue (frames : List Frame)
  /-- A value without quotes, so far. -/
  | word (frames : List Frame) (cs : List Char)
  /-- A date and a space, after which a time may come. -/
  | wordSpace (frames : List Frame) (cs : List Char)
  /-- A value inside brackets or braces. -/
  | valueRead (frames : List Frame)

/-- The document so far, and the way to the table of the latest header. -/
structure Progress where
  root : List (String × Toml) := []
  header : List String := []
  mode : Mode := .lineStart

namespace Progress

/-- The number of brackets and braces that may be open at a time, and of the parts of a dotted
key. -/
def nesting : Nat := 80

def deliver (p : Progress) (value : Toml) : List Frame → Option Progress
  | .line path :: _ => do
    let root ← within? false (assign? path value) .header p.header p.root
    return { p with root, mode := .lineEnd }
  | .list items :: frames => some { p with mode := .valueRead (.list (value :: items) :: frames) }
  | .entry entries path :: frames => do
    let entries ← assign? path value .braces entries
    return { p with mode := .valueRead (.braces entries :: frames) }
  | _ => none

/-- A token where a value may start. A list may end there, also after a comma. -/
def readValue (p : Progress) (frames : List Frame) : Token → Option Progress
  | .blank _ => some p
  | .lineBreak => if frames.length ≤ 1 then none else some p
  | .text value _ => p.deliver (.text value) frames
  | .bare cs => some { p with mode := .word frames cs }
  | .openBracket =>
    if frames.length ≤ nesting then some { p with mode := .valueDue (.list [] :: frames) } else none
  | .openBrace =>
    if frames.length ≤ nesting then some { p with mode := .keyDue (.braces frames []) [] } else none
  | .closeBracket =>
    match frames with
    | .list items :: frames => p.deliver (.list items.reverse) frames
    | _ => none
  | _ => none

def readSeparator (p : Progress) : List Frame → Token → Option Progress
  | _, .blank _ => some p
  | _, .lineBreak => some p
  | .list items :: frames, .comma => some { p with mode := .valueDue (.list items :: frames) }
  | .list items :: frames, .closeBracket => p.deliver (.list items.reverse) frames
  | .braces entries :: frames, .comma => some { p with mode := .keyDue (.braces frames entries) [] }
  | .braces entries :: frames, .closeBrace => p.deliver (.table .braces entries) frames
  | _, _ => none

def readKey (p : Progress) (place : Place) (parents : List String) : Token → Option Progress
  | .blank _ => some { p with mode := .keyDue place parents }
  | .bare cs =>
    if cs.all isKeyChar then
      some { p with mode := .keyRead place ⟨parents, String.ofList cs⟩ }
    else none
  | .text key false => some { p with mode := .keyRead place ⟨parents, key⟩ }
  | .lineBreak =>
    match place, parents with
    | .braces _ _, [] => some p
    | _, _ => none
  | .closeBrace =>
    match place, parents with
    | .braces frames entries, [] => p.deliver (.table .braces entries) frames
    | _, _ => none
  | _ => none

def readAfterKey (p : Progress) (place : Place) (path : Path) : Token → Option Progress
  | .blank _ => some p
  | .dot =>
    let parents := path.parents ++ [path.last]
    if parents.length < nesting then some { p with mode := .keyDue place parents } else none
  | .equals =>
    match place with
    | .line => some { p with mode := .valueDue [.line path] }
    | .braces frames entries => some { p with mode := .valueDue (.entry entries path :: frames) }
    | .header _ => none
  | .lineBreak =>
    match place with
    | .braces frames entries => some { p with mode := .equalsDue frames entries path }
    | _ => none
  | .closeBracket =>
    match place with
    | .header true => some { p with mode := .closing path }
    | .header false => do
      let root ← openTable? path p.root
      return { root, header := path.parents ++ [path.last], mode := .lineEnd }
    | _ => none
  | _ => none

/-- Reads a token, except where it may continue a bare word. -/
def readToken (p : Progress) (token : Token) : Option Progress :=
  match p.mode with
  | .lineStart =>
    match token with
    | .blank _ => some p
    | .lineBreak => some p
    | .openBracket => some { p with mode := .bracket }
    | _ => p.readKey .line [] token
  | .bracket =>
    if token = .openBracket then some { p with mode := .keyDue (.header true) [] }
    else p.readKey (.header false) [] token
  | .keyDue place parents => p.readKey place parents token
  | .keyRead place path => p.readAfterKey place path token
  | .equalsDue frames entries path =>
    match token with
    | .blank _ => some p
    | .lineBreak => some p
    | .equals => some { p with mode := .valueDue (.entry entries path :: frames) }
    | _ => none
  | .closing path =>
    if token = .closeBracket then do
      let root ← openNext? path p.root
      return { root, header := path.parents ++ [path.last], mode := .lineEnd }
    else none
  | .lineEnd =>
    match token with
    | .blank _ => some p
    | .lineBreak => some { p with mode := .lineStart }
    | _ => none
  | .valueDue frames => p.readValue frames token
  | .valueRead frames => p.readSeparator frames token
  | .word _ _ => none
  | .wordSpace _ _ => none

def endWord (p : Progress) (frames : List Frame) (cs : List Char) (token : Token) :
    Option Progress := do
  let value ← bareValue? cs
  let p ← p.deliver value frames
  p.readToken token

/-- Reads a token. Words and dots without blanks between them make one value, and so do a date and
a time with a space between them. -/
def advance (p : Progress) (token : Token) : Option Progress :=
  match p.mode with
  | .word frames cs =>
    match token with
    | .bare more => some { p with mode := .word frames (cs ++ more) }
    | .dot => some { p with mode := .word frames (cs ++ ['.']) }
    | .blank true =>
      if skipDate? cs = some [] then some { p with mode := .wordSpace frames cs }
      else p.endWord frames cs token
    | _ => p.endWord frames cs token
  | .wordSpace frames cs =>
    match token with
    | .bare time => some { p with mode := .word frames (cs ++ ' ' :: time) }
    | _ => p.endWord frames cs token
  | _ => p.readToken token

end Progress

/-- The document that a list of tokens writes. The end counts as a line break. -/
def ofTokens? (tokens : List Token) : Option Toml :=
  match (tokens ++ [Token.lineBreak]).foldlM Progress.advance {} with
  | some { root, mode := .lineStart, .. } => some (.table .header root)
  | _ => none

def dropByteOrderMark : List Char → List Char
  | '\ufeff' :: rest => rest
  | rest => rest

def parse? (s : String) : Option Toml :=
  (tokens? (dropByteOrderMark s.toList)).bind ofTokens?

end UmlDiagrams.Toml
