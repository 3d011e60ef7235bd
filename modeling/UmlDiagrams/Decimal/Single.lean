import UmlDiagrams.Text.Digits
/-!
# Single-precision numbers

Reading and writing of 32-bit floating-point numbers in decimal. Every finite magnitude is a whole
number of units of 2^-149, so both directions are exact arithmetic of natural numbers. A number is
written with the fewest digits that read back as the same number, and never with an exponent.
-/

namespace UmlDiagrams

inductive Single where
  | nan
  | infinite (negative : Bool)
  /-- A multiple of 2^-149 that has 24 significant bits at most. -/
  | finite (negative : Bool) (units : Nat)
deriving DecidableEq, Repr

namespace Single

def one : Nat :=
  Nat.pow 2 149

/-- The quotient rounded to the nearest natural number; a tie goes to the even neighbour. -/
def roundQuotient (num den : Nat) : Nat :=
  let q := num / den
  let twice := 2 * (num % den)
  if twice < den ∨ (twice = den ∧ q % 2 = 0) then q else q + 1

/-- The magnitude of `num / den` in units, rounded to 24 significant bits. -/
def roundUnits (num den : Nat) : Nat :=
  let scaled := num * one
  let step := Nat.pow 2 (Nat.log2 (scaled / den) - 23)
  roundQuotient scaled (den * step) * step

/-- One more than the greatest finite magnitude, on the grid of such magnitudes. -/
def overflow : Nat := one * Nat.pow 2 128

def unitsOfDecimal (digits : Nat) (exponent : Int) : Nat :=
  if exponent ≥ 0 then roundUnits (digits * Nat.pow 10 exponent.toNat) 1
  else roundUnits digits (Nat.pow 10 (-exponent).toNat)

def digitCount (n : Nat) : Nat :=
  (Nat.toDigits 10 n).length

/-- The nearest number to a decimal. Far outside the range the power of ten is not computed. -/
def ofDecimal (negative : Bool) (digits : Nat) (exponent : Int) : Single :=
  let top := exponent + digitCount digits
  if digits = 0 ∨ top < -50 then finite negative 0
  else if top > 50 then infinite negative
  else
    let units := unitsOfDecimal digits exponent
    if units ≥ overflow then infinite negative else finite negative units

def exponent? : List Char → Option Int
  | [] => some 0
  | e :: rest =>
    let (negative, digits) := Text.takeSign rest
    if (e = 'e' ∨ e = 'E') ∧ digits ≠ [] ∧ digits.all Char.isDigit then
      some (Text.signed negative (Text.valueOf 10 digits))
    else none

def decimal? (cs : List Char) : Option (Nat × Int) := do
  let whole := cs.takeWhile Char.isDigit
  let rest := cs.dropWhile Char.isDigit
  let (fraction, rest) := match rest with
    | '.' :: rest => (rest.takeWhile Char.isDigit, rest.dropWhile Char.isDigit)
    | rest => ([], rest)
  guard (!(whole.isEmpty && fraction.isEmpty))
  let exponent ← exponent? rest
  return (Text.valueOf 10 (whole ++ fraction), exponent - fraction.length)

/-- Reads a number in decimal, `inf`, `infinity` or `nan`, the words in any case. -/
def parse? (s : String) : Option Single := do
  let (negative, cs) := Text.takeSign s.toList
  let word := String.ofList (cs.map Char.toLower)
  if word = "inf" ∨ word = "infinity" then return infinite negative
  if word = "nan" then return nan
  let (digits, exponent) ← decimal? cs
  return ofDecimal negative digits exponent

def leadingExponent (units : Nat) : Int :=
  let whole := units / one
  if whole > 0 then digitCount whole - 1
  else digitCount (units * Nat.pow 10 60 / one) - 61

/-- The decimal with `count` digits nearest to a magnitude, if one of its two neighbours there reads
back. A tie goes to the greater one. -/
def nearest? (units count : Nat) : Option (Nat × Int) :=
  let exponent := leadingExponent units - (count - 1 : Nat)
  let num := if exponent ≥ 0 then units else units * Nat.pow 10 (-exponent).toNat
  let den := if exponent ≥ 0 then one * Nat.pow 10 exponent.toNat else one
  let nearest := (2 * num + den) / (2 * den)
  let candidates := [nearest, num / den, num / den + 1]
  (candidates.find? fun d => unitsOfDecimal d exponent = units).map (·, exponent)

def shortest (units : Nat) : Nat × Int :=
  ((List.range 9).findSome? fun k => nearest? units (k + 1)).getD (0, 0)

def positional (digits : Nat) (exponent : Int) : String :=
  let text := Nat.toDigits 10 digits
  if exponent ≥ 0 then String.ofList (text ++ List.replicate exponent.toNat '0')
  else
    let places := (-exponent).toNat
    let text := List.replicate (places + 1 - text.length) '0' ++ text
    let whole := text.take (text.length - places)
    let fraction := (text.drop (text.length - places)).reverse.dropWhile (· == '0') |>.reverse
    String.ofList (if fraction.isEmpty then whole else whole ++ '.' :: fraction)

def sign (negative : Bool) : String :=
  if negative then "-" else ""

def toText : Single → String
  | nan => "NaN"
  | infinite negative => sign negative ++ "inf"
  | finite negative units =>
    if units = 0 then sign negative ++ "0"
    else
      let (digits, exponent) := shortest units
      sign negative ++ positional digits exponent

def isPositive : Single → Bool
  | finite false units => units > 0
  | _ => false

end Single

end UmlDiagrams
