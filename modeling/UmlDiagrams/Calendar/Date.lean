/-!
# Dates

The proleptic Gregorian calendar. Days are counted from 1970-01-01, and the computation runs in
eras of 400 years that begin on 1 March, so that a leap day is the last day of its year.
-/

namespace UmlDiagrams

structure Date where
  year : Int
  month : Nat
  day : Nat
deriving DecidableEq, Repr

namespace Date

/-- Days in an era of 400 years. -/
def eraDays : Nat := 146097

def yearOfEra (dayOfEra : Nat) : Nat :=
  (dayOfEra - dayOfEra / 1460 + dayOfEra / 36524 - dayOfEra / 146096) / 365

/-- The first day within its era of a year within its era. -/
def startOfYear (yearOfEra : Nat) : Nat :=
  365 * yearOfEra + yearOfEra / 4 - yearOfEra / 100

/-- The first day within its year of a month counted from March. -/
def startOfMonth (monthFromMarch : Nat) : Nat :=
  (153 * monthFromMarch + 2) / 5

def ofDayNumber (days : Int) : Date :=
  let shifted := days + 719468
  let era := shifted / eraDays
  let dayOfEra := (shifted % eraDays).toNat
  let year := yearOfEra dayOfEra
  let dayOfYear := dayOfEra - startOfYear year
  let month := (5 * dayOfYear + 2) / 153
  let january := month ≥ 10
  { year := era * 400 + year + (if january then 1 else 0)
    month := if january then month - 9 else month + 3
    day := dayOfYear - startOfMonth month + 1 }

def isLeap (year : Nat) : Bool :=
  year % 4 == 0 && (year % 100 != 0 || year % 400 == 0)

def monthLength (year month : Nat) : Nat :=
  if month = 2 then if isLeap year then 29 else 28
  else if month ∈ [4, 6, 9, 11] then 30 else 31

end Date

end UmlDiagrams
