import Mathlib.Algebra.Group.Nat.Defs
import Mathlib.Data.List.Basic
import UmlDiagrams.Calendar.Instant
import UmlDiagrams.Proofs.Calendar.Days
/-!
# Stamps of instants

A stamp gives the fields of a date and a time from the largest to the smallest, each in a fixed
width. It can therefore be read back, and stamps sort as their instants do.
-/

namespace UmlDiagrams

section Digits

variable {width n m : Nat} {cs ds : List Char}

private theorem toList_padded (width n : Nat) :
    (padded width n).toList =
      List.replicate (width - (Nat.toDigits 10 n).length) '0' ++ Nat.toDigits 10 n := by
  simp [padded]

theorem isDigit_of_mem_padded {c : Char} (h : c ∈ (padded width n).toList) : c.isDigit := by
  rw [toList_padded, List.mem_append] at h
  rcases h with h | h
  · rw [List.eq_of_mem_replicate h]
    decide
  · exact Nat.isDigit_of_mem_toDigits (by decide) (by decide) h

private theorem length_padded (hwidth : 0 < width) (h : n < 10 ^ width) :
    (padded width n).toList.length = width := by
  have hlength := (Nat.length_toDigits_le_iff (by decide) hwidth).mpr h
  rw [toList_padded, List.length_append, List.length_replicate]
  omega

private theorem ofDigitChars_padded (width n : Nat) :
    Nat.ofDigitChars 10 (padded width n).toList 0 = n := by
  rw [toList_padded, Nat.ofDigitChars_append, Nat.ofDigitChars_replicate_zero, Nat.mul_zero,
    Nat.ofDigitChars_ten_toDigits]

theorem digit_value {c : Char} (h : c.isDigit) : c.toNat - '0'.toNat < 10 ∧ '0'.toNat ≤ c.toNat := by
  simp only [Char.isDigit, Bool.and_eq_true, decide_eq_true_eq, ge_iff_le,
    UInt32.le_iff_toNat_le] at h
  change 48 ≤ c.toNat ∧ c.toNat ≤ 57 at h
  change c.toNat - 48 < 10 ∧ 48 ≤ c.toNat
  omega

private theorem ofDigitChars_cons_eq (c : Char) (cs : List Char) :
    Nat.ofDigitChars 10 (c :: cs) 0 =
      10 ^ cs.length * (c.toNat - '0'.toNat) + Nat.ofDigitChars 10 cs 0 := by
  rw [Nat.ofDigitChars_cons, Nat.ofDigitChars_eq_ofDigitChars_zero, Nat.mul_zero, Nat.zero_add]

private theorem ofDigitChars_lt (h : ∀ c ∈ cs, c.isDigit) :
    Nat.ofDigitChars 10 cs 0 < 10 ^ cs.length := by
  induction cs with
  | nil => decide
  | cons c cs ih =>
    rw [List.forall_mem_cons] at h
    have hdigit := (digit_value h.1).1
    have hrest := ih h.2
    have hfirst : 10 ^ cs.length * (c.toNat - '0'.toNat) ≤ 10 ^ cs.length * 9 :=
      Nat.mul_le_mul_left _ (Nat.le_of_lt_succ hdigit)
    rw [ofDigitChars_cons_eq, List.length_cons, Nat.pow_succ]
    omega

private theorem mul_add_lt_iff {base a b x y : Nat} (hx : x < base) (hy : y < base) :
    base * a + x < base * b + y ↔ a < b ∨ a = b ∧ x < y := by
  rcases Nat.lt_trichotomy a b with hlt | heq | hgt
  · have hstep : base * a + base ≤ base * b := Nat.mul_le_mul_left base hlt
    omega
  · subst heq
    omega
  · have hstep : base * b + base ≤ base * a := Nat.mul_le_mul_left base hgt
    omega

private theorem digits_lt_iff (hc : ∀ c ∈ cs, c.isDigit) (hd : ∀ d ∈ ds, d.isDigit)
    (h : cs.length = ds.length) :
    cs < ds ↔ Nat.ofDigitChars 10 cs 0 < Nat.ofDigitChars 10 ds 0 := by
  induction cs generalizing ds with
  | nil =>
    rw [List.length_eq_zero_iff.mp h.symm]
    simp
  | cons c cs ih =>
    cases ds with
    | nil => cases h
    | cons d ds =>
      rw [List.forall_mem_cons] at hc hd
      have hlength : cs.length = ds.length := Nat.succ.inj h
      have hcs := ofDigitChars_lt hc.2
      have hds := ofDigitChars_lt hd.2
      rw [hlength] at hcs
      have hchar : c < d ↔ c.toNat - '0'.toNat < d.toNat - '0'.toNat := by
        have hcdigit := (digit_value hc.1).2
        rw [Char.lt_def, UInt32.lt_iff_toNat_lt]
        change c.toNat < d.toNat ↔ _
        omega
      have hsame : c = d ↔ c.toNat - '0'.toNat = d.toNat - '0'.toNat := by
        have hcdigit := (digit_value hc.1).2
        have hddigit := (digit_value hd.1).2
        rw [← Char.toNat_inj]
        omega
      rw [List.cons_lt_cons_iff, ofDigitChars_cons_eq, ofDigitChars_cons_eq, hlength,
        mul_add_lt_iff hcs hds, hchar, hsame, ih hc.2 hd.2 hlength]

private theorem append_lt_append_iff {xs ys : List Char} (h : cs.length = ds.length) :
    cs ++ xs < ds ++ ys ↔ cs < ds ∨ cs = ds ∧ xs < ys := by
  induction cs generalizing ds with
  | nil =>
    rw [List.length_eq_zero_iff.mp h.symm]
    simp
  | cons c cs ih =>
    cases ds with
    | nil => cases h
    | cons d ds =>
      rw [List.cons_append, List.cons_append, List.cons_lt_cons_iff, List.cons_lt_cons_iff,
        ih (Nat.succ.inj h), List.cons.injEq, and_or_left, or_assoc, and_assoc]

private theorem padded_append_lt_iff (hwidth : 0 < width) (hn : n < 10 ^ width)
    (hm : m < 10 ^ width) {x y : String} :
    padded width n ++ x < padded width m ++ y ↔ n < m ∨ n = m ∧ x < y := by
  have hlength : (padded width n).toList.length = (padded width m).toList.length := by
    rw [length_padded hwidth hn, length_padded hwidth hm]
  have hdigits := digits_lt_iff (fun _ => isDigit_of_mem_padded) (fun _ => isDigit_of_mem_padded)
    hlength
  have hsame : (padded width n).toList = (padded width m).toList ↔ n = m := by
    constructor
    · intro heq
      rw [← ofDigitChars_padded width n, heq, ofDigitChars_padded]
    · rintro rfl
      rfl
  rw [ofDigitChars_padded, ofDigitChars_padded] at hdigits
  change (padded width n ++ x).toList < (padded width m ++ y).toList ↔ _
  rw [String.toList_append, String.toList_append, append_lt_append_iff hlength, hdigits, hsame]
  rfl

def takeNumber (width : Nat) (cs : List Char) : Nat × List Char :=
  (Nat.ofDigitChars 10 (cs.take width) 0, cs.drop (width + 1))

private theorem takeNumber_padded (hwidth : 0 < width) (h : n < 10 ^ width) (c : Char)
    (cs : List Char) :
    takeNumber width ((padded width n).toList ++ c :: cs) = (n, cs) := by
  have hlength := length_padded hwidth h
  rw [takeNumber, List.take_left' hlength, ofDigitChars_padded, ← List.drop_drop,
    List.drop_left' hlength, List.drop_one, List.tail_cons]

end Digits

theorem string_append_lt_iff (a : String) {x y : String} : a ++ x < a ++ y ↔ x < y := by
  change (a ++ x).toList < (a ++ y).toList ↔ _
  rw [String.toList_append, String.toList_append, append_lt_append_iff rfl]
  constructor
  · rintro (h | ⟨-, h⟩)
    · exact absurd h (List.lt_irrefl _)
    · exact h
  · exact fun h => .inr ⟨rfl, h⟩

def Date.text (d : Date) : String :=
  padded 4 d.year.natAbs ++ ("-" ++ (padded 2 d.month ++ ("-" ++ padded 2 d.day)))

def Date.FourDigits (d : Date) : Prop :=
  0 ≤ d.year ∧ d.year ≤ 9999

private theorem Date.text_append_lt_iff {d e : Date} (hd : d.Ordinary) (he : e.Ordinary)
    (hdyear : d.FourDigits) (heyear : e.FourDigits) {x y : String} :
    d.text ++ x < e.text ++ y ↔ d.dayNumber < e.dayNumber ∨ d = e ∧ x < y := by
  have hdays := hd.dayNumber_lt_iff he
  have hsame : d = e ↔ d.year = e.year ∧ d.month = e.month ∧ d.day = e.day := by
    cases d
    cases e
    rw [Date.mk.injEq]
  obtain ⟨hdmonth, hdday, -⟩ := hd
  obtain ⟨hemonth, heday, -⟩ := he
  rw [FourDigits] at hdyear heyear
  simp only [text, String.append_assoc]
  rw [padded_append_lt_iff (by decide) (by omega) (by omega), string_append_lt_iff,
    padded_append_lt_iff (by decide) (by omega) (by omega), string_append_lt_iff,
    padded_append_lt_iff (by decide) (by omega) (by omega), hdays, hsame]
  by_cases hxy : x < y
  · simp only [hxy, and_true]
    omega
  · simp only [hxy, and_false, or_false]
    omega

def clockText (hour minute second : Nat) : String :=
  padded 2 hour ++ ("-" ++ (padded 2 minute ++ ("-" ++ padded 2 second)))

namespace Instant

variable {t u : Instant}

def truncated (t : Instant) : Instant :=
  ⟨t.seconds, t.nanos / billion * billion⟩

def Before (t u : Instant) : Prop :=
  t.seconds < u.seconds ∨ t.seconds = u.seconds ∧ t.nanos < u.nanos

/-- An instant that there is, in a year of four digits. -/
structure Stamped (t : Instant) : Prop where
  isInstant : ofEpoch? t.seconds t.nanos = some t
  year : t.date.FourDigits

private theorem stamp_eq (h : t.date.FourDigits) :
    t.stamp = t.date.text ++ ("T" ++ clockText t.hour t.minute t.second) := by
  have hyear : yearText t.date.year = padded 4 t.date.year.natAbs := by
    rw [yearText, if_neg (Int.not_lt.mpr h.1), if_neg (Int.not_lt.mpr h.2)]
  simp only [stamp, hyear, Date.text, clockText, String.append_assoc]

private theorem nanos_of_ofEpoch? (h : ofEpoch? t.seconds t.nanos = some t) :
    t.nanos / billion = 0 ∨ t.nanos / billion = 1 ∧ t.secondOfDay % 60 = 59 := by
  simp only [ofEpoch?] at h
  split at h
  · rename_i hinstant
    rw [billion] at hinstant ⊢
    rw [secondOfDay]
    omega
  · cases h

theorem second_of_leap (h : ofEpoch? t.seconds t.nanos = some t) (hleap : billion ≤ t.nanos) :
    t.second = 60 := by
  have hpositive : 0 < t.nanos / billion := Nat.div_pos hleap (by decide)
  have hnanos := nanos_of_ofEpoch? h
  rw [second]
  omega

private theorem secondOfDay_lt (t : Instant) : t.secondOfDay < 86400 := by
  rw [secondOfDay]
  omega

private theorem clock_bounds (h : ofEpoch? t.seconds t.nanos = some t) :
    t.hour < 24 ∧ t.minute < 60 ∧ t.second ≤ 60 := by
  have hleap := nanos_of_ofEpoch? h
  have hday := t.secondOfDay_lt
  rw [hour, minute, second]
  omega

private theorem date_dayNumber (t : Instant) : t.date.dayNumber = t.seconds / 86400 :=
  (Date.ofDayNumber_spec _).2

private theorem date_ordinary (t : Instant) : t.date.Ordinary :=
  (Date.ofDayNumber_spec _).1

private theorem date_eq_iff : t.date = u.date ↔ t.seconds / 86400 = u.seconds / 86400 := by
  constructor
  · intro h
    rw [← date_dayNumber, h, date_dayNumber]
  · intro h
    rw [date, date, h]

/-- Times of day, each with or without a leap second, are in the order of what the clock shows. -/
private theorem clock_lt_iff {a b i j : Nat} (hi : i = 0 ∨ i = 1 ∧ a % 60 = 59)
    (hj : j = 0 ∨ j = 1 ∧ b % 60 = 59) :
    (a / 3600 < b / 3600 ∨ a / 3600 = b / 3600 ∧ (a / 60 % 60 < b / 60 % 60 ∨
        a / 60 % 60 = b / 60 % 60 ∧ a % 60 + i < b % 60 + j)) ↔
      a < b ∨ a = b ∧ i < j := by
  omega

private theorem clockText_append_lt_iff (ht : ofEpoch? t.seconds t.nanos = some t)
    (hu : ofEpoch? u.seconds u.nanos = some u) (x : String) :
    clockText t.hour t.minute t.second ++ x < clockText u.hour u.minute u.second ++ x ↔
      t.secondOfDay < u.secondOfDay ∨
        t.secondOfDay = u.secondOfDay ∧ t.nanos / billion < u.nanos / billion := by
  obtain ⟨hthour, htminute, htsecond⟩ := clock_bounds ht
  obtain ⟨huhour, huminute, husecond⟩ := clock_bounds hu
  have hirrefl : ¬ x < x := List.lt_irrefl x.toList
  simp only [clockText, String.append_assoc]
  rw [padded_append_lt_iff (by decide) (by omega) (by omega), string_append_lt_iff,
    padded_append_lt_iff (by decide) (by omega) (by omega), string_append_lt_iff,
    padded_append_lt_iff (by decide) (by omega) (by omega)]
  simp only [hirrefl, and_false, or_false]
  exact clock_lt_iff (nanos_of_ofEpoch? ht) (nanos_of_ofEpoch? hu)

theorem stamp_truncated (t : Instant) : t.truncated.stamp = t.stamp := by
  have hsecond : t.truncated.second = t.second := by
    rw [second, second, truncated, Nat.mul_div_cancel _ (by decide)]
    rfl
  rw [stamp, stamp, hsecond]
  rfl

/-- Stamps sort as the seconds of their instants do. -/
theorem stamp_append_lt_iff (ht : t.Stamped) (hu : u.Stamped) (x : String) :
    t.stamp ++ x < u.stamp ++ x ↔ t.truncated.Before u.truncated := by
  have hbillion : 0 < billion := by decide
  rw [stamp_eq ht.year, stamp_eq hu.year]
  simp only [String.append_assoc]
  rw [Date.text_append_lt_iff t.date_ordinary u.date_ordinary ht.year hu.year,
    string_append_lt_iff, clockText_append_lt_iff ht.isInstant hu.isInstant, date_dayNumber,
    date_dayNumber, date_eq_iff, Before, truncated, truncated, secondOfDay, secondOfDay,
    Nat.mul_lt_mul_right hbillion]
  dsimp only
  omega

/-- The instant of a date and a time of day, in which second 60 is a leap second. -/
def ofClock (d : Date) (hour minute second : Nat) : Instant :=
  ⟨d.dayNumber * 86400 + (hour * 3600 + minute * 60 + min second 59 : Nat), second / 60 * billion⟩

def ofStamp (cs : List Char) : Instant :=
  let (year, cs) := takeNumber 4 cs
  let (month, cs) := takeNumber 2 cs
  let (day, cs) := takeNumber 2 cs
  let (hour, cs) := takeNumber 2 cs
  let (minute, cs) := takeNumber 2 cs
  let (second, _) := takeNumber 2 cs
  ofClock ⟨year, month, day⟩ hour minute second

private theorem ofClock_clock (h : ofEpoch? t.seconds t.nanos = some t) :
    ofClock t.date t.hour t.minute t.second = t.truncated := by
  have hleap := nanos_of_ofEpoch? h
  have hseconds : t.seconds / 86400 * 86400 + (t.hour * 3600 + t.minute * 60 + min t.second 59 : Nat) =
      t.seconds := by
    rw [hour, minute, second]
    rw [secondOfDay] at *
    omega
  have hnanos : t.second / 60 = t.nanos / billion := by
    rw [second]
    omega
  rw [ofClock, date_dayNumber, hseconds, hnanos, truncated]

theorem ofStamp_stamp (h : t.Stamped) (c : Char) (cs : List Char) :
    ofStamp (t.stamp.toList ++ c :: cs) = t.truncated := by
  obtain ⟨hhour, hminute, hsecond⟩ := clock_bounds h.isInstant
  obtain ⟨hmonth, hday, -⟩ := t.date_ordinary
  obtain ⟨hfirst, hlast⟩ := h.year
  have hchars : t.stamp.toList ++ c :: cs =
      (padded 4 t.date.year.natAbs).toList ++ '-' :: ((padded 2 t.date.month).toList ++
        '-' :: ((padded 2 t.date.day).toList ++ 'T' :: ((padded 2 t.hour).toList ++
          '-' :: ((padded 2 t.minute).toList ++ '-' :: ((padded 2 t.second).toList ++ c :: cs))))) := by
    simp [stamp_eq h.year, Date.text, clockText]
  have hdate : (⟨t.date.year.natAbs, t.date.month, t.date.day⟩ : Date) = t.date := by
    rw [Int.natAbs_of_nonneg hfirst]
  have hyear : t.date.year.natAbs < 10 ^ 4 := by omega
  rw [hchars]
  simp (disch := omega) only [ofStamp, takeNumber_padded]
  rw [hdate, ofClock_clock h.isInstant]

end Instant

end UmlDiagrams
