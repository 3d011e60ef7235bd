import UmlDiagrams.Toml.Quoted
/-!
# TOML tokens

The words of TOML text. What is neither a mark nor a string is a bare word, whose meaning depends on
its place: a key, a number, a date.
-/

namespace UmlDiagrams.Toml

inductive Token where
  | dot | equals | comma
  | openBracket | closeBracket | openBrace | closeBrace
  /-- Blanks or a comment; the flag tells whether it is a single space. -/
  | blank (isSpace : Bool)
  | lineBreak
  | bare (word : List Char)
  /-- A string; the flag tells whether it may have several lines. -/
  | text (value : String) (lines : Bool)
deriving DecidableEq, Repr

def marks : List (Char × Token) :=
  [('.', .dot), ('=', .equals), (',', .comma), ('[', .openBracket), (']', .closeBracket),
    ('{', .openBrace), ('}', .closeBrace), ('\n', .lineBreak)]

/-- The quotes that the text starts with. -/
def quotes? : List Char → Option Quotes
  | [] => none
  | c :: rest =>
    if c = '"' ∨ c = '\'' then some ⟨c, [c, c].isPrefixOf rest⟩ else none

def isBare (c : Char) : Bool :=
  (marks.lookup c).isNone && !isBlank c && !isBreak c && c ≠ '#' && c ≠ '"' && c ≠ '\''

def next? : List Char → Option (Token × List Char)
  | [] => none
  | '\r' :: '\n' :: rest => some (.lineBreak, rest)
  | '#' :: rest =>
    if isClean false (rest.takeWhile (!isBreak ·)) then
      some (.blank false, rest.dropWhile (!isBreak ·))
    else none
  | c :: rest =>
    match quotes? (c :: rest) with
    | some quotes => do
      let (inside, after) ← quotes.split? (rest.drop (quotes.fence.length - 1))
      return (.text (← quotes.text? inside) quotes.lines, after)
    | none =>
      match marks.lookup c with
      | some mark => some (mark, rest)
      | none =>
        if isBlank c then
          let more := rest.takeWhile isBlank
          some (.blank (c == ' ' && more.isEmpty), rest.dropWhile isBlank)
        else if isBare c then
          some (.bare (c :: rest.takeWhile isBare), rest.dropWhile isBare)
        else none

private theorem next?_length {cs rest : List Char} {t : Token} (h : next? cs = some (t, rest)) :
    rest.length < cs.length := by
  have shorter (p : Char → Bool) (r : List Char) : (r.dropWhile p).length ≤ r.length :=
    (List.dropWhile_suffix p).length_le
  unfold next? at h
  split at h
  · cases h
  · obtain ⟨rfl, rfl⟩ := Prod.mk.inj (Option.some.inj h)
    simp only [List.length_cons]
    omega
  · rename_i r
    split at h
    · obtain ⟨rfl, rfl⟩ := Prod.mk.inj (Option.some.inj h)
      exact Nat.lt_succ_of_le (shorter _ r)
    · cases h
  · rename_i c r _ _
    split at h
    · rename_i quotes _
      obtain ⟨⟨inside, after⟩, hs, h⟩ := Option.bind_eq_some_iff.mp h
      obtain ⟨value, _, h⟩ := Option.bind_eq_some_iff.mp h
      obtain ⟨rfl, rfl⟩ := Prod.mk.inj (Option.some.inj h)
      have := Quotes.split?_length hs
      simp only [List.length_drop] at this
      simp only [List.length_cons]
      omega
    · split at h
      · obtain ⟨rfl, rfl⟩ := Prod.mk.inj (Option.some.inj h)
        exact Nat.lt_succ_self _
      · split at h
        · obtain ⟨rfl, rfl⟩ := Prod.mk.inj (Option.some.inj h)
          exact Nat.lt_succ_of_le (shorter _ r)
        · split at h
          · obtain ⟨rfl, rfl⟩ := Prod.mk.inj (Option.some.inj h)
            exact Nat.lt_succ_of_le (shorter _ r)
          · cases h

def tokens? (cs : List Char) : Option (List Token) :=
  if cs.isEmpty then some []
  else
    match _hnext : next? cs with
    | none => none
    | some (token, rest) => (tokens? rest).map (token :: ·)
termination_by cs.length
decreasing_by exact next?_length _hnext

end UmlDiagrams.Toml
