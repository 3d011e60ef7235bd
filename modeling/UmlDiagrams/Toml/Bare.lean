import UmlDiagrams.Calendar.Date
import UmlDiagrams.Text.Digits
import UmlDiagrams.Toml.Value

namespace UmlDiagrams.Toml

def isKeyChar (c : Char) : Bool :=
  c.isAlphanum || c == '_' || c == '-'

/-- The digits of a number. Underscores may stand between two digits. -/
def digits? (isDigit : Char → Bool) : List Char → Option (List Char)
  | [] => none
  | c :: '_' :: rest => if isDigit c then (digits? isDigit rest).map (c :: ·) else none
  | [c] => if isDigit c then some [c] else none
  | c :: rest => if isDigit c then (digits? isDigit rest).map (c :: ·) else none

def wholeDigits? (cs : List Char) : Option (List Char) := do
  let digits ← digits? Char.isDigit cs
  guard (digits.length = 1 ∨ digits.head? ≠ some '0')
  return digits

def isDigitOf (base : Nat) (c : Char) : Bool :=
  (Text.hexValue? c).any (· < base)

/-- An integer: decimal with or without sign, or in another base without sign. -/
def integer? (cs : List Char) : Option Int :=
  let inBase (base : Nat) (digits : List Char) : Option Int :=
    (digits? (isDigitOf base) digits).map fun digits => (Text.valueOf base digits : Int)
  match cs with
  | '0' :: 'x' :: digits => inBase 16 digits
  | '0' :: 'o' :: digits => inBase 8 digits
  | '0' :: 'b' :: digits => inBase 2 digits
  | _ =>
    let (negative, digits) := Text.takeSign cs
    (wholeDigits? digits).map fun digits => Text.signed negative (Text.valueOf 10 digits)

/-- Integers have 128 bits, with or without sign. -/
def inRange (n : Int) : Bool :=
  -(Nat.pow 2 127 : Int) ≤ n && n < (Nat.pow 2 128 : Int)

def isExponentMark (c : Char) : Bool :=
  c == 'e' || c == 'E'

/-- Whether a decimal is beyond all finite numbers of double precision after rounding. Far outside
their range the power of ten is not computed. -/
def overflows (digits : Nat) (exponent : Int) : Bool :=
  let top := exponent + (Nat.toDigits 10 digits).length
  if digits = 0 ∨ top < 300 then false
  else if top > 320 then true
  else
    let limit := (Nat.pow 2 54 - 1) * Nat.pow 2 970
    if exponent ≥ 0 then limit ≤ digits * Nat.pow 10 exponent.toNat
    else limit * Nat.pow 10 (-exponent).toNat ≤ digits

def fraction? : List Char → Option (List Char)
  | [] => some []
  | c :: digits => if c = '.' then digits? Char.isDigit digits else none

def exponent? : List Char → Option Int
  | [] => some 0
  | _ :: rest =>
    let (negative, digits) := Text.takeSign rest
    (digits? Char.isDigit digits).map fun digits => Text.signed negative (Text.valueOf 10 digits)

/-- Whether this is a number with a fraction or an exponent that has a finite value, or one of the
words for other values. -/
def isFloat (cs : List Char) : Bool :=
  let (_, magnitude) := Text.takeSign cs
  if magnitude = ['i', 'n', 'f'] ∨ magnitude = ['n', 'a', 'n'] then true
  else
    let mantissa := magnitude.takeWhile (!isExponentMark ·)
    let read : Option (Nat × Int) := do
      let whole ← wholeDigits? (mantissa.takeWhile (· ≠ '.'))
      let fraction ← fraction? (mantissa.dropWhile (· ≠ '.'))
      let exponent ← exponent? (magnitude.dropWhile (!isExponentMark ·))
      return (Text.valueOf 10 (whole ++ fraction), exponent - fraction.length)
    read.any fun (digits, exponent) => !overflows digits exponent

def decimal? (cs : List Char) : Option Nat :=
  if cs.all Char.isDigit then some (Text.valueOf 10 cs) else none

def skipDate? : List Char → Option (List Char)
  | a :: b :: c :: d :: '-' :: e :: f :: '-' :: g :: h :: rest => do
    let year ← decimal? [a, b, c, d]
    let month ← decimal? [e, f]
    let day ← decimal? [g, h]
    guard (1 ≤ month ∧ month ≤ 12 ∧ 1 ≤ day ∧ day ≤ Date.monthLength year month)
    return rest
  | _ => none

def skipSeconds? : List Char → Option (List Char)
  | ':' :: a :: b :: rest => do
    let second ← decimal? [a, b]
    guard (second ≤ 60)
    match rest with
    | '.' :: c :: digits =>
      guard c.isDigit
      return digits.dropWhile Char.isDigit
    | _ => return rest
  | rest => some rest

def skipTime? : List Char → Option (List Char)
  | a :: b :: ':' :: c :: d :: rest => do
    let hour ← decimal? [a, b]
    let minute ← decimal? [c, d]
    guard (hour ≤ 23 ∧ minute ≤ 59)
    skipSeconds? rest
  | _ => none

def isOffset : List Char → Bool
  | [] => true
  | [z] => z == 'Z' || z == 'z'
  | [sign, a, b, ':', c, d] =>
    (sign == '+' || sign == '-') && (decimal? [a, b]).any (· ≤ 23) && (decimal? [c, d]).any (· ≤ 59)
  | _ => false

def isMoment (cs : List Char) : Bool :=
  match skipDate? cs with
  | some [] => true
  | some (c :: time) => (c == 'T' || c == 't' || c == ' ') && (skipTime? time).any isOffset
  | none => skipTime? cs == some []

def bareValue? (cs : List Char) : Option Toml :=
  if cs = ['t', 'r', 'u', 'e'] then some (.flag true)
  else if cs = ['f', 'a', 'l', 's', 'e'] then some (.flag false)
  else if isMoment cs then some .moment
  else
    match integer? cs with
    | some n => if inRange n then some (.integer n) else none
    | none => if isFloat cs then some .float else none

end UmlDiagrams.Toml
