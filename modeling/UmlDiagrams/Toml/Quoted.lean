import UmlDiagrams.Text.Hex

namespace UmlDiagrams.Toml

def isBlank (c : Char) : Bool :=
  c == ' ' || c == '\t'

def isBreak (c : Char) : Bool :=
  c == '\n' || c == '\r'

def startsWithBreak : List Char → Bool
  | '\n' :: _ => true
  | '\r' :: '\n' :: _ => true
  | _ => false

/-- Whether no character is a control character other than a tab and, where several lines are
allowed, a line break. -/
def isClean (lines : Bool) : List Char → Bool
  | [] => true
  | '\r' :: '\n' :: rest => lines && isClean lines rest
  | c :: rest =>
    (c == '\t' || (' ' ≤ c && c ≠ '\x7f') || (lines && c == '\n')) && isClean lines rest

/-- Removes the line breaks that are escaped, each with all blanks and line breaks that follow it.
The flag tells whether such a break came just before. -/
def joinLines? (joining : Bool) : List Char → Option (List Char)
  | [] => some []
  | '\\' :: c :: rest =>
    if isBlank c || isBreak c then
      if startsWithBreak ((c :: rest).dropWhile isBlank) then joinLines? true rest else none
    else (joinLines? false rest).map ('\\' :: c :: ·)
  | c :: rest =>
    if joining && (isBlank c || isBreak c) then joinLines? true rest
    else (joinLines? false rest).map (c :: ·)

def escapes : List (Char × Char) :=
  [('b', '\x08'), ('t', '\t'), ('n', '\n'), ('f', '\x0c'), ('r', '\r'), ('e', '\x1b'),
    ('"', '"'), ('\\', '\\')]

def numbered? (digits : List Char) : Option Char :=
  (Text.hexNumber? digits).bind Text.charOfNat?

def unescape? : List Char → Option (List Char)
  | [] => some []
  | '\\' :: 'x' :: a :: b :: rest => do
    let c ← numbered? [a, b]
    return c :: (← unescape? rest)
  | '\\' :: 'u' :: a :: b :: c :: d :: rest => do
    let c ← numbered? [a, b, c, d]
    return c :: (← unescape? rest)
  | '\\' :: 'U' :: a :: b :: c :: d :: e :: f :: g :: h :: rest => do
    let c ← numbered? [a, b, c, d, e, f, g, h]
    return c :: (← unescape? rest)
  | '\\' :: e :: rest => do
    let c ← escapes.lookup e
    return c :: (← unescape? rest)
  | c :: rest => if c = '\\' then none else (unescape? rest).map (c :: ·)

/-- A line break right after the opening quotes does not count. -/
def dropFirstBreak : List Char → List Char
  | '\n' :: rest => rest
  | '\r' :: '\n' :: rest => rest
  | rest => rest

/-- The four kinds of string. -/
structure Quotes where
  mark : Char
  /-- Whether the mark is written three times and the text may have several lines. -/
  lines : Bool
deriving DecidableEq, Repr

namespace Quotes

/-- Only double quotes give the backslash a meaning. -/
def escaping (q : Quotes) : Bool :=
  q.mark == '"'

def fence (q : Quotes) : List Char :=
  List.replicate (if q.lines then 3 else 1) q.mark

def text? (q : Quotes) (inside : List Char) : Option String := do
  guard (isClean q.lines inside)
  let inside := if q.lines then dropFirstBreak inside else inside
  if q.escaping then
    let joined ← if q.lines then joinLines? false inside else some inside
    return String.ofList (← unescape? joined)
  else
    return String.ofList inside

/-- Divides what follows the opening marks at the closing ones. Up to two marks more belong to the
text if it may have several lines. -/
def split? (q : Quotes) : List Char → Option (List Char × List Char)
  | [] => none
  | c :: rest =>
    if q.escaping && c == '\\' then
      match rest with
      | [] => none
      | d :: rest => (q.split? rest).map fun (inside, after) => (c :: d :: inside, after)
    else if q.fence.isPrefixOf (c :: rest) then
      let after := (c :: rest).drop q.fence.length
      let extra := if q.lines then (after.take 2).takeWhile (· == q.mark) else []
      some (extra, after.drop extra.length)
    else (q.split? rest).map fun (inside, after) => (c :: inside, after)

theorem split?_length {q : Quotes} {cs inside after : List Char}
    (h : q.split? cs = some (inside, after)) : after.length ≤ cs.length := by
  fun_induction q.split? cs generalizing inside after with
  | case1 => cases h
  | case2 => cases h
  | case3 c _ d rest ih =>
    obtain ⟨⟨i, a⟩, hi, he⟩ := Option.map_eq_some_iff.mp h
    obtain ⟨rfl, rfl⟩ := Prod.mk.inj he
    have := ih hi
    simp only [List.length_cons]
    omega
  | case4 c rest _ _ =>
    obtain ⟨_, rfl⟩ := Prod.mk.inj (Option.some.inj h)
    exact ((List.drop_suffix _ _).trans (List.drop_suffix _ _)).length_le
  | case5 c rest _ _ ih =>
    obtain ⟨⟨i, a⟩, hi, he⟩ := Option.map_eq_some_iff.mp h
    obtain ⟨rfl, rfl⟩ := Prod.mk.inj he
    exact Nat.le_succ_of_le (ih hi)

end Quotes

end UmlDiagrams.Toml
