import UmlDiagrams.Yaml.Token
/-!
# YAML nodes

The tree that the tokens of a text write. The tokens are read one by one, with the open lists and
tables on a stack. Anchored nodes are kept aside, and an alias holds only a number.
-/

namespace UmlDiagrams

inductive Yaml where
  | scalar (tag : Option Yaml.TagText) (form : Yaml.Form) (text : String)
  | list (items : List Yaml)
  | table (entries : List (Yaml × Yaml))
  /-- The node anchored under a number. -/
  | alias (number : Nat)
deriving Repr

namespace Yaml

def nothing : Yaml :=
  .scalar none .plain ""

/-- What stands in front of a node: the serial number of its anchor, and a tag. -/
structure Properties where
  anchor : Option Nat := none
  tag : Option TagText := none
deriving DecidableEq, Repr

def Properties.isEmpty (p : Properties) : Bool :=
  p.anchor.isNone && p.tag.isNone

/-- A place in brackets or braces: whether an item has been read there since the opening mark or the
latest comma. -/
inductive Spot where
  | empty | filled
deriving DecidableEq, Repr

/-- A table to be read: its entries, the last one first. -/
abbrev Entries := List (Yaml × Yaml)

/-- What the node that is read next is for. Lists and tables hold the anchor that they carry, and
what has been read of them with the last item first. -/
inductive Frame where
  /-- The whole document. -/
  | root
  /-- An item of a list in a block of its own. -/
  | item (anchor : Option Nat) (items : List Yaml)
  /-- An item of a list in the block of the surrounding table. -/
  | flushItem (anchor : Option Nat) (items : List Yaml)
  | key (anchor : Option Nat) (entries : Entries)
  | value (anchor : Option Nat) (entries : Entries) (key : Yaml)
  /-- An item in brackets. -/
  | flowItem (anchor : Option Nat) (items : List Yaml)
  /-- A key in braces. -/
  | flowKey (anchor : Option Nat) (entries : Entries)
  | flowValue (anchor : Option Nat) (entries : Entries) (key : Yaml)
  /-- A key in braces without mark, which has no value. -/
  | loneKey (anchor : Option Nat) (entries : Entries)
  /-- The key of a table of one entry in brackets; the frame below is that of the item. -/
  | pairKey
  | pairValue (key : Yaml)

inductive Mode where
  /-- Directives, or the start of the document. -/
  | prologue (directives : List Directive)
  /-- A node, or nothing. -/
  | nodeOrNothing
  | node (properties : Properties)
  /-- What follows a node in a list or table. -/
  | afterItem (anchor : Option Nat) (items : List Yaml)
  | afterFlushItem (anchor : Option Nat) (items : List Yaml)
  | beforeKey (anchor : Option Nat) (entries : Entries)
  | afterKey (anchor : Option Nat) (entries : Entries) (key : Yaml)
  | inBrackets (spot : Spot) (anchor : Option Nat) (items : List Yaml)
  | inBraces (spot : Spot) (anchor : Option Nat) (entries : Entries)
  | afterFlowKey (anchor : Option Nat) (entries : Entries) (key : Yaml)
  | afterPairKey (key : Yaml)
  /-- What follows the document. -/
  | epilogue (root : Yaml)
  | done (root : Yaml)

structure Progress where
  frames : List Frame := []
  mode : Mode := .prologue []
  directives : List Directive := []
  /-- The number of each anchor name. -/
  numbers : List (String × Nat) := []
  /-- The serial number of the latest anchor with a number. -/
  latest : List (Nat × Nat) := []
  /-- How many anchors there are. -/
  serial : Nat := 0
  /-- The complete nodes by the serial numbers of their anchors. -/
  anchored : List (Nat × Yaml) := []

namespace Progress

/-- Numbers an anchor by the count of names so far. Where a name is used again, its number may come
to mean a later anchor. -/
def nameAnchor (p : Progress) (name : String) : Progress × Nat :=
  let number := p.numbers.length
  ({ p with
    numbers := (name, number) :: p.numbers.filter (·.1 ≠ name)
    latest := (number, p.serial) :: p.latest
    serial := p.serial + 1 }, p.serial)

def usualTags : List (String × TagText) :=
  [("!", TagText.ofString "!"), ("!!", TagText.ofString "tag:yaml.org,2002:")]

/-- The starts of tags by handle. -/
def tagStarts (directives : List Directive) : List (String × TagText) :=
  directives.filterMap (fun
    | .tags handle start => some (handle, start)
    | .version _ _ => none) ++ usualTags

def resolveTag? (directives : List Directive) (tag : TagName) : Option TagText :=
  if tag.handle = "" then some tag.suffix
  else ((tagStarts directives).lookup tag.handle).map (· ++ tag.suffix)

/-- Adds a directive. A version is given once and is 1.1 or 1.2, and so is each handle. -/
def addDirective? (directives : List Directive) : Directive → Option (List Directive)
  | .version major minor =>
    if directives.any (fun | .version _ _ => true | _ => false) ∨ major ≠ 1 ∨
        (minor ≠ 1 ∧ minor ≠ 2) then none
    else some (directives ++ [.version major minor])
  | .tags handle start =>
    if directives.any (fun | .tags other _ => other == handle | _ => false) then none
    else some (directives ++ [.tags handle start])

def keep (p : Progress) (anchor : Option Nat) (node : Yaml) : Progress :=
  match anchor with
  | none => p
  | some serial => { p with anchored := (serial, node) :: p.anchored }

def deliver (p : Progress) (node : Yaml) : List Frame → Option Progress
  | [] => none
  | .root :: frames => some { p with frames, mode := .epilogue node }
  | .item anchor items :: frames =>
    some { p with frames, mode := .afterItem anchor (node :: items) }
  | .flushItem anchor items :: frames =>
    some { p with frames, mode := .afterFlushItem anchor (node :: items) }
  | .key anchor entries :: frames => some { p with frames, mode := .afterKey anchor entries node }
  | .value anchor entries key :: frames =>
    some { p with frames, mode := .beforeKey anchor ((key, node) :: entries) }
  | .flowItem anchor items :: frames =>
    some { p with frames, mode := .inBrackets .filled anchor (node :: items) }
  | .flowKey anchor entries :: frames =>
    some { p with frames, mode := .afterFlowKey anchor entries node }
  | .flowValue anchor entries key :: frames =>
    some { p with frames, mode := .inBraces .filled anchor ((key, node) :: entries) }
  | .loneKey anchor entries :: frames =>
    some { p with frames, mode := .inBraces .filled anchor ((node, nothing) :: entries) }
  | .pairKey :: frames => some { p with frames, mode := .afterPairKey node }
  | .pairValue key :: frames => p.deliver (.table [(key, node)]) frames

def endList (p : Progress) (anchor : Option Nat) (items : List Yaml) : Option Progress :=
  let node := Yaml.list items.reverse
  (p.keep anchor node).deliver node p.frames

def endTable (p : Progress) (anchor : Option Nat) (entries : Entries) : Option Progress :=
  let node := Yaml.table entries.reverse
  (p.keep anchor node).deliver node p.frames

/-- Goes on with a node for the given purpose, where nothing may be written instead. -/
def expect (p : Progress) (frame : Frame) : Option Progress :=
  some { p with frames := frame :: p.frames, mode := .nodeOrNothing }

def require (p : Progress) (frame : Frame) : Progress :=
  { p with frames := frame :: p.frames, mode := .node {} }

/-- Whether nodes for this purpose stand in blocks. -/
def inBlock : Frame → Bool
  | .root | .item _ _ | .flushItem _ _ | .key _ _ | .value _ _ _ => true
  | _ => false

/-- Whether a list in the block of the surrounding table may stand here. -/
def allowsFlush : Frame → Bool
  | .key _ _ | .value _ _ _ => true
  | _ => false

/-- A token of a node: a property of it, its only token, or its start. -/
def readNode (p : Progress) (properties : Properties) (frame : Frame) (token : Token) :
    Option Progress :=
  let anchor := properties.anchor
  match token with
  | .alias name => do
    guard properties.isEmpty
    let number ← p.numbers.lookup name
    p.deliver (.alias number) p.frames
  | .anchor name =>
    if anchor.isSome then none
    else
      let (p, serial) := p.nameAnchor name
      some { p with mode := .node { properties with anchor := some serial } }
  | .tag tag =>
    if properties.tag.isSome then none
    else do
      let tag ← resolveTag? p.directives tag
      return { p with mode := .node { properties with tag := some tag } }
  | .scalar form text =>
    let node := Yaml.scalar properties.tag form text
    (p.keep anchor node).deliver node p.frames
  | .openBracket => some { p with mode := .inBrackets .empty anchor [] }
  | .openBrace => some { p with mode := .inBraces .empty anchor [] }
  | .listStart => if inBlock frame then some { p with mode := .afterItem anchor [] } else none
  | .tableStart => if inBlock frame then some { p with mode := .beforeKey anchor [] } else none
  | .dash => if allowsFlush frame then p.expect (.flushItem anchor []) else none
  | _ => none

def showsNothing : Frame → Token → Bool
  | .root, .directive _ | .root, .documentStart | .root, .documentEnd | .root, .textEnd => true
  | .item _ _, .dash | .item _ _, .blockEnd => true
  | .flushItem _ _, .dash | .flushItem _ _, .key | .flushItem _ _, .value
  | .flushItem _ _, .blockEnd => true
  | .key _ _, .key | .key _ _, .value | .key _ _, .blockEnd => true
  | .value _ _ _, .key | .value _ _ _, .value | .value _ _ _, .blockEnd => true
  | .flowKey _ _, .value | .flowKey _ _, .comma | .flowKey _ _, .closeBrace => true
  | .flowValue _ _ _, .comma | .flowValue _ _ _, .closeBrace => true
  | .pairKey, .value | .pairKey, .comma | .pairKey, .closeBracket => true
  | .pairValue _, .comma | .pairValue _, .closeBracket => true
  | _, _ => false

def readBeforeKey (p : Progress) (anchor : Option Nat) (entries : Entries) :
    Token → Option Progress
  | .key => p.expect (.key anchor entries)
  | .blockEnd => p.endTable anchor entries
  | _ => none

def readAfterKey (p : Progress) (anchor : Option Nat) (entries : Entries) (key : Yaml) :
    Token → Option Progress
  | .value => p.expect (.value anchor entries key)
  | token => p.readBeforeKey anchor ((key, nothing) :: entries) token

def readInBrackets (p : Progress) (spot : Spot) (anchor : Option Nat) (items : List Yaml)
    (token : Token) : Option Progress :=
  match spot, token with
  | _, .closeBracket => p.endList anchor items
  | .filled, .comma => some { p with mode := .inBrackets .empty anchor items }
  | .filled, _ => none
  | .empty, .key =>
    let p := { p with frames := .flowItem anchor items :: p.frames }
    p.expect .pairKey
  | .empty, _ => (p.require (.flowItem anchor items)).readNode {} (.flowItem anchor items) token

def readInBraces (p : Progress) (spot : Spot) (anchor : Option Nat) (entries : Entries)
    (token : Token) : Option Progress :=
  match spot, token with
  | _, .closeBrace => p.endTable anchor entries
  | .filled, .comma => some { p with mode := .inBraces .empty anchor entries }
  | .filled, _ => none
  | .empty, .key => p.expect (.flowKey anchor entries)
  | .empty, _ => (p.require (.loneKey anchor entries)).readNode {} (.loneKey anchor entries) token

def readPrologue (p : Progress) (directives : List Directive) : Token → Option Progress
  | .directive directive => do
    let directives ← addDirective? directives directive
    return { p with mode := .prologue directives }
  | .documentStart =>
    some { p with directives, frames := [.root], mode := .nodeOrNothing }
  | .textEnd => if directives = [] then some { p with mode := .done nothing } else none
  | token => if directives = [] then (p.require .root).readNode {} .root token else none

def readSettled (p : Progress) (token : Token) : Option Progress :=
  match p.mode with
  | .prologue directives => p.readPrologue directives token
  | .afterItem anchor items =>
    match token with
    | .dash => p.expect (.item anchor items)
    | .blockEnd => p.endList anchor items
    | _ => none
  | .beforeKey anchor entries => p.readBeforeKey anchor entries token
  | .afterKey anchor entries key => p.readAfterKey anchor entries key token
  | .inBrackets spot anchor items => p.readInBrackets spot anchor items token
  | .inBraces spot anchor entries => p.readInBraces spot anchor entries token
  | .afterFlowKey anchor entries key =>
    match token with
    | .value => p.expect (.flowValue anchor entries key)
    | _ => p.readInBraces .filled anchor ((key, nothing) :: entries) token
  | .afterPairKey key =>
    match token with
    | .value => p.expect (.pairValue key)
    | _ => do
      let p ← p.deliver (.table [(key, nothing)]) p.frames
      match p.mode with
      | .inBrackets spot anchor items => p.readInBrackets spot anchor items token
      | _ => none
  | .epilogue root =>
    match token with
    | .documentEnd => some p
    | .textEnd => some { p with mode := .done root }
    | _ => none
  | _ => none

/-- Reads a token that follows a node. Any token but a dash ends a list in the block of a table. -/
def readAfterNode (p : Progress) (token : Token) : Option Progress :=
  match p.mode with
  | .afterFlushItem anchor items =>
    match token with
    | .dash => p.expect (.flushItem anchor items)
    | _ => do
      let p ← p.endList anchor items
      p.readSettled token
  | _ => p.readSettled token

def advance (p : Progress) (token : Token) : Option Progress :=
  match p.mode, p.frames with
  | .nodeOrNothing, frame :: _ =>
    if showsNothing frame token then do
      let p ← p.deliver nothing p.frames
      match frame with
      | .pairKey => return p
      | _ => p.readAfterNode token
    else p.readNode {} frame token
  | .node properties, frame :: _ =>
    match p.readNode properties frame token with
    | some p => some p
    | none =>
      if properties.isEmpty then none
      else do
        let node := Yaml.scalar properties.tag .plain ""
        let p ← (p.keep properties.anchor node).deliver node p.frames
        p.readAfterNode token
  | _, _ => p.readAfterNode token

end Progress

mutual

/-- The number of marks in a tree: one for a scalar or an alias, and two around the items of a list
or table. -/
def markCount : Yaml → Nat
  | .scalar _ _ _ => 1
  | .alias _ => 1
  | .list items => 2 + itemMarks items
  | .table entries => 2 + entryMarks entries

def itemMarks : List Yaml → Nat
  | [] => 0
  | item :: items => markCount item + itemMarks items

def entryMarks : List (Yaml × Yaml) → Nat
  | [] => 0
  | (key, value) :: entries => markCount key + markCount value + entryMarks entries

end

/-- A document: its root, and the anchored nodes by their numbers. -/
structure Tree where
  root : Yaml
  anchored : List (Nat × Yaml)
deriving Repr

def Progress.byNumber (p : Progress) : List (Nat × Yaml) :=
  p.latest.filterMap fun (number, serial) => (p.anchored.lookup serial).map (number, ·)

def ofTokens? (tokens : List Token) : Option Tree :=
  match tokens.foldlM Progress.advance {} with
  | some p =>
    match p.mode with
    | .done root => some ⟨root, p.byNumber⟩
    | _ => none
  | none => none

/-- The document that a text writes. There is no more than one. -/
def parse? (s : String) : Option Tree := do
  ofTokens? (← tokens? (← cells? s))

end Yaml

end UmlDiagrams
