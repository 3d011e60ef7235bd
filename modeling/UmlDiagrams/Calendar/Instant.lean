import UmlDiagrams.Calendar.Date
/-!
# Instants

Moments of UTC between the years -262143 and 262142, and the stamp of a moment in a file name.
-/

namespace UmlDiagrams

/-- Seconds since 1970 and nanoseconds. A leap second is a nanosecond count of at least one billion
in the last second of a minute. -/
structure Instant where
  seconds : Int
  nanos : Nat
deriving DecidableEq, Repr

def padded (width n : Nat) : String :=
  let digits := (toString n).toList
  String.ofList (List.replicate (width - digits.length) '0' ++ digits)

namespace Instant

def billion : Nat := 1000000000

/-- The instant of a count of seconds and nanoseconds, if it is one. -/
def ofEpoch? (seconds : Int) (nanos : Nat) : Option Instant :=
  let inRange := -8334601228800 ≤ seconds ∧ seconds ≤ 8210266876799
  let exact := nanos < billion ∨ (nanos < 2 * billion ∧ seconds % 60 = 59)
  if inRange ∧ exact then some ⟨seconds, nanos⟩ else none

def date (t : Instant) : Date :=
  .ofDayNumber (t.seconds / 86400)

def secondOfDay (t : Instant) : Nat :=
  (t.seconds % 86400).toNat

def hour (t : Instant) : Nat :=
  t.secondOfDay / 3600

def minute (t : Instant) : Nat :=
  t.secondOfDay / 60 % 60

/-- The second of the minute; a leap second is number 60. -/
def second (t : Instant) : Nat :=
  t.secondOfDay % 60 + t.nanos / billion

/-- A year has four digits at least, and a sign unless it lies between 0 and 9999. -/
def yearText (year : Int) : String :=
  if year < 0 then "-" ++ padded 4 year.natAbs
  else if year > 9999 then "+" ++ padded 4 year.natAbs
  else padded 4 year.natAbs

def stamp (t : Instant) : String :=
  yearText t.date.year ++ "-" ++ padded 2 t.date.month ++ "-" ++ padded 2 t.date.day ++ "T" ++
    padded 2 t.hour ++ "-" ++ padded 2 t.minute ++ "-" ++ padded 2 t.second

end Instant

end UmlDiagrams
