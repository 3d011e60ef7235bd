import UmlDiagrams.Text.Hex

namespace UmlDiagrams.Json

inductive Token where
  | openBrace | closeBrace | openBracket | closeBracket | comma | colon
  | null
  | flag (value : Bool)
  | number
  /-- A string, with the text that it denotes, if any. -/
  | text (value? : Option String)
deriving DecidableEq, Repr

/-- A part of a string: a character, or a 16-bit unit written as an escape. -/
inductive Piece where
  | char (c : Char)
  | unit (n : Nat)
deriving DecidableEq, Repr

def escapes : List (Char × Char) :=
  [('"', '"'), ('\\', '\\'), ('/', '/'), ('b', '\x08'), ('f', '\x0c'), ('n', '\n'), ('r', '\r'),
    ('t', '\t')]

def scanString : List Char → Option (List Piece × List Char)
  | [] => none
  | '"' :: rest => some ([], rest)
  | '\\' :: 'u' :: a :: b :: c :: d :: rest => do
    let n ← Text.hexNumber? [a, b, c, d]
    let (pieces, rest) ← scanString rest
    return (.unit n :: pieces, rest)
  | '\\' :: e :: rest => do
    let c ← escapes.lookup e
    let (pieces, rest) ← scanString rest
    return (.char c :: pieces, rest)
  | c :: rest =>
    if c = '\\' ∨ c < ' ' then none
    else (scanString rest).map fun (pieces, rest) => (.char c :: pieces, rest)

/-- The text of the parts; a surrogate must be the first half of a pair or follow one. -/
def textOfPieces? : List Piece → Option (List Char)
  | [] => some []
  | .char c :: rest => (textOfPieces? rest).map (c :: ·)
  | .unit hi :: .unit lo :: rest =>
    if 0xD800 ≤ hi ∧ hi < 0xDC00 ∧ 0xDC00 ≤ lo ∧ lo < 0xE000 then
      (textOfPieces? rest).map (Char.ofNat (0x10000 + (hi - 0xD800) * 0x400 + (lo - 0xDC00)) :: ·)
    else do
      let c ← Text.charOfNat? hi
      let cs ← textOfPieces? (.unit lo :: rest)
      return c :: cs
  | .unit n :: rest => do
    let c ← Text.charOfNat? n
    let cs ← textOfPieces? rest
    return c :: cs

def skipDigits? : List Char → Option (List Char)
  | c :: rest => if c.isDigit then some (rest.dropWhile Char.isDigit) else none
  | [] => none

/-- What follows the digits before the point; a leading zero stands alone. -/
def skipWhole? : List Char → Option (List Char)
  | '0' :: rest => if (rest.head?.any Char.isDigit) then none else some rest
  | cs => skipDigits? cs

def skipFraction? : List Char → Option (List Char)
  | '.' :: rest => skipDigits? rest
  | cs => some cs

def skipExponent? : List Char → Option (List Char)
  | [] => some []
  | e :: rest =>
    if e = 'e' ∨ e = 'E' then
      match rest with
      | [] => none
      | sign :: digits => skipDigits? (if sign = '+' ∨ sign = '-' then digits else rest)
    else some (e :: rest)

def skipMagnitude? (cs : List Char) : Option (List Char) :=
  ((skipWhole? cs).bind skipFraction?).bind skipExponent?

def marks : List (Char × Token) :=
  [('{', .openBrace), ('}', .closeBrace), ('[', .openBracket), (']', .closeBracket),
    (',', .comma), (':', .colon)]

def next? : List Char → Option (Token × List Char)
  | 'n' :: 'u' :: 'l' :: 'l' :: rest => some (.null, rest)
  | 't' :: 'r' :: 'u' :: 'e' :: rest => some (.flag true, rest)
  | 'f' :: 'a' :: 'l' :: 's' :: 'e' :: rest => some (.flag false, rest)
  | '"' :: rest =>
    (scanString rest).map fun (pieces, rest) =>
      (.text ((textOfPieces? pieces).map String.ofList), rest)
  | [] => none
  | c :: rest =>
    match marks.lookup c with
    | some mark => some (mark, rest)
    | none => (skipMagnitude? (if c = '-' then rest else c :: rest)).map (.number, ·)

def isSpace (c : Char) : Bool :=
  c == ' ' || c == '\n' || c == '\t' || c == '\r'

private theorem scanString_length {cs rest : List Char} {pieces : List Piece}
    (h : scanString cs = some (pieces, rest)) : rest.length < cs.length := by
  fun_induction scanString cs generalizing pieces rest with
  | case1 => cases h
  | case2 r =>
    obtain ⟨rfl, rfl⟩ := Prod.mk.inj (Option.some.inj h)
    exact Nat.lt_succ_self _
  | case3 a b c d r ih =>
    obtain ⟨_, _, h⟩ := Option.bind_eq_some_iff.mp h
    obtain ⟨⟨ps, r'⟩, hr, h⟩ := Option.bind_eq_some_iff.mp h
    obtain ⟨_, rfl⟩ := Prod.mk.inj (Option.some.inj h)
    have := ih hr
    simp only [List.length_cons]
    omega
  | case4 e r _ ih =>
    obtain ⟨_, _, h⟩ := Option.bind_eq_some_iff.mp h
    obtain ⟨⟨ps, r'⟩, hr, h⟩ := Option.bind_eq_some_iff.mp h
    obtain ⟨_, rfl⟩ := Prod.mk.inj (Option.some.inj h)
    have := ih hr
    simp only [List.length_cons]
    omega
  | case5 => cases h
  | case6 c r _ _ _ _ ih =>
    obtain ⟨⟨ps, r'⟩, hr, h⟩ := Option.map_eq_some_iff.mp h
    obtain ⟨_, rfl⟩ := Prod.mk.inj h
    exact Nat.lt_succ_of_lt (ih hr)

private theorem skipDigits?_length {cs rest : List Char} (h : skipDigits? cs = some rest) :
    rest.length < cs.length := by
  cases cs with
  | nil => cases h
  | cons c cs =>
    have := (List.dropWhile_suffix Char.isDigit (l := cs)).length_le
    simp only [skipDigits?, Option.ite_none_right_eq_some, Option.some.injEq] at h
    rw [← h.2]
    exact Nat.lt_succ_of_le this

private theorem skipWhole?_length {cs rest : List Char} (h : skipWhole? cs = some rest) :
    rest.length < cs.length := by
  unfold skipWhole? at h
  split at h
  · simp only [Option.ite_none_left_eq_some, Option.some.injEq] at h
    rw [← h.2]
    exact Nat.lt_succ_self _
  · exact skipDigits?_length h

private theorem skipFraction?_length {cs rest : List Char} (h : skipFraction? cs = some rest) :
    rest.length ≤ cs.length := by
  unfold skipFraction? at h
  split at h
  · exact Nat.le_succ_of_le (Nat.le_of_lt (skipDigits?_length h))
  · cases h
    exact Nat.le_refl _

private theorem skipExponent?_length {cs rest : List Char} (h : skipExponent? cs = some rest) :
    rest.length ≤ cs.length := by
  unfold skipExponent? at h
  split at h
  · cases h
    exact Nat.le_refl _
  · split at h
    · split at h
      · cases h
      · have := skipDigits?_length h
        split at this
        all_goals
          simp only [List.length_cons] at this ⊢
          omega
    · cases h
      exact Nat.le_refl _

private theorem skipMagnitude?_length {cs rest : List Char} (h : skipMagnitude? cs = some rest) :
    rest.length < cs.length := by
  simp only [skipMagnitude?, Option.bind_eq_some_iff] at h
  obtain ⟨r, ⟨q, hq, hr⟩, h⟩ := h
  have := skipWhole?_length hq
  have := skipFraction?_length hr
  have := skipExponent?_length h
  omega

private theorem next?_length {cs rest : List Char} {t : Token} (h : next? cs = some (t, rest)) :
    rest.length < cs.length := by
  unfold next? at h
  split at h
  · cases h
    simp only [List.length_cons]
    omega
  · cases h
    simp only [List.length_cons]
    omega
  · cases h
    simp only [List.length_cons]
    omega
  · simp only [Option.map_eq_some_iff, Prod.mk.injEq] at h
    obtain ⟨⟨pieces, r⟩, hr, _, rfl⟩ := h
    exact Nat.lt_succ_of_lt (scanString_length hr)
  · cases h
  · split at h
    · cases h
      exact Nat.lt_succ_self _
    · simp only [Option.map_eq_some_iff, Prod.mk.injEq] at h
      obtain ⟨r, hr, _, rfl⟩ := h
      have := skipMagnitude?_length hr
      split at this
      all_goals
        simp only [List.length_cons] at this ⊢
        omega

/-- The tokens of a text, if it consists of tokens. -/
def tokens? (cs : List Char) : Option (List Token) :=
  match _hcs : cs.dropWhile isSpace with
  | [] => some []
  | c :: rest =>
    match _hnext : next? (c :: rest) with
    | none => none
    | some (t, rest') => (tokens? rest').map (t :: ·)
termination_by cs.length
decreasing_by
  have := (List.dropWhile_suffix isSpace (l := cs)).length_le
  rw [_hcs] at this
  have := next?_length _hnext
  omega

end UmlDiagrams.Json
