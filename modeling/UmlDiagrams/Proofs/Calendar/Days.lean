import UmlDiagrams.Calendar.Date
/-!
# Days and dates

A date stands for one day, and later days have later dates. Years begin in March here, so that they
differ only in their last day, and months are counted through the years.
-/

namespace UmlDiagrams.Date

def commonDays (dayOfEra : Nat) : Nat :=
  dayOfEra - dayOfEra / 1460 + dayOfEra / 36524 - dayOfEra / 146096

private theorem commonDays_mono {a b : Nat} (hab : a ≤ b) (hb : b < eraDays) :
    commonDays a ≤ commonDays b := by
  rw [eraDays] at hb
  rw [commonDays, commonDays]
  omega

private theorem yearOfEra_mono {a b : Nat} (hab : a ≤ b) (hb : b < eraDays) :
    yearOfEra a ≤ yearOfEra b :=
  Nat.div_le_div_right (commonDays_mono hab hb)

private theorem yearOfEra_lt {day : Nat} (h : day < eraDays) : yearOfEra day < 400 := by
  have hlast : yearOfEra day ≤ yearOfEra 146096 := yearOfEra_mono (Nat.le_of_lt_succ h) (by decide)
  exact Nat.lt_of_le_of_lt hlast (by decide)

private theorem yearOfEra_startOfYear :
    ∀ year < 400, startOfYear year < eraDays ∧ yearOfEra (startOfYear year) = year := by
  decide +kernel

private theorem yearOfEra_endOfYear :
    ∀ year < 399, yearOfEra (startOfYear (year + 1) - 1) = year := by
  decide +kernel

/-- The computation of years is monotone, and right at the first and last day of each year. -/
private theorem yearOfEra_bounds {day : Nat} (h : day < eraDays) :
    startOfYear (yearOfEra day) ≤ day ∧
      (yearOfEra day < 399 → day < startOfYear (yearOfEra day + 1)) := by
  have hyear := yearOfEra_lt h
  constructor
  · apply Nat.le_of_not_lt
    intro hlt
    cases hy : yearOfEra day with
    | zero =>
      rw [hy] at hlt
      exact Nat.not_lt_zero day hlt
    | succ year =>
      rw [hy] at hlt hyear
      have hstart := (yearOfEra_startOfYear (year + 1) hyear).1
      have hbefore : yearOfEra day ≤ yearOfEra (startOfYear (year + 1) - 1) :=
        yearOfEra_mono (by omega) (by omega)
      rw [yearOfEra_endOfYear year (by omega), hy] at hbefore
      omega
  · intro hnot
    apply Nat.lt_of_not_le
    intro hge
    obtain ⟨-, hstart⟩ := yearOfEra_startOfYear (yearOfEra day + 1) (by omega)
    have hafter := yearOfEra_mono hge h
    rw [hstart] at hafter
    omega

def yearStart (year : Int) : Int :=
  365 * year + year / 4 - year / 100 + year / 400

def monthStart (month : Int) : Int :=
  yearStart (month / 12) + (153 * (month % 12) + 2) / 5

def monthCount (d : Date) : Int :=
  12 * d.year + d.month - 3

/-- The number of the day that the date stands for, counted from 1970-01-01. -/
def dayNumber (d : Date) : Int :=
  monthStart d.monthCount + d.day - 719469

private theorem yearStart_era (era : Int) {year : Nat} (h : year < 400) :
    yearStart (era * 400 + year) = era * eraDays + startOfYear year := by
  rw [yearStart, startOfYear, eraDays]
  omega

private theorem yearStart_succ (year : Int) : yearStart year + 365 ≤ yearStart (year + 1) := by
  rw [yearStart, yearStart]
  omega

private theorem monthStart_month (year : Int) {month : Nat} (h : month < 12) :
    monthStart (12 * year + month) = yearStart year + startOfMonth month := by
  have hyear : (12 * year + month) / 12 = year := by omega
  have hmonth : (12 * year + month) % 12 = (month : Int) := by omega
  rw [monthStart, hyear, hmonth, startOfMonth]
  omega

private theorem exists_month (count : Int) : ∃ (year : Int) (month : Nat), month < 12 ∧
    count = 12 * year + month :=
  ⟨count / 12, (count % 12).toNat, by omega, by omega⟩

private theorem monthStart_next (year : Int) {month : Nat} (h : month < 11) :
    monthStart (12 * year + month + 1) = yearStart year + startOfMonth (month + 1) := by
  have hnext : 12 * year + month + 1 = 12 * year + (month + 1 : Nat) := by omega
  rw [hnext, monthStart_month year (by omega)]

private theorem monthStart_march (year : Int) :
    monthStart (12 * year + (11 : Nat) + 1) = yearStart (year + 1) := by
  have hmarch : 12 * year + (11 : Nat) + 1 = 12 * (year + 1) + (0 : Nat) := by omega
  rw [hmarch, monthStart_month (year + 1) (by decide), startOfMonth]
  omega

private theorem monthStart_lt_succ (count : Int) : monthStart count < monthStart (count + 1) := by
  obtain ⟨year, month, hmonth, rfl⟩ := exists_month count
  rw [monthStart_month year hmonth]
  by_cases hlast : month = 11
  · have hnext := yearStart_succ year
    rw [hlast, monthStart_march, startOfMonth]
    omega
  · rw [monthStart_next year (by omega), startOfMonth, startOfMonth]
    omega

private theorem monthStart_mono {a b : Int} (h : a ≤ b) : monthStart a ≤ monthStart b := by
  obtain ⟨n, rfl⟩ := Int.le.dest h
  clear h
  induction n with
  | zero => exact Int.le_of_eq (congrArg monthStart (Int.add_zero a).symm)
  | succ n ih =>
    have hstep := monthStart_lt_succ (a + n)
    rw [Int.add_assoc] at hstep
    exact Int.le_trans ih (Int.le_of_lt hstep)

structure Ordinary (d : Date) : Prop where
  month : 1 ≤ d.month ∧ d.month ≤ 12
  day : 1 ≤ d.day ∧ d.day ≤ 31
  inMonth : monthStart d.monthCount + d.day ≤ monthStart (d.monthCount + 1)

def ofYearDay (year : Int) (dayOfYear : Nat) : Date :=
  let month := (5 * dayOfYear + 2) / 153
  { year := year + if month ≥ 10 then 1 else 0
    month := if month ≥ 10 then month - 9 else month + 3
    day := dayOfYear - startOfMonth month + 1 }

private theorem ofDayNumber_eq (days : Int) :
    ofDayNumber days =
      ofYearDay ((days + 719468) / eraDays * 400 + yearOfEra ((days + 719468) % eraDays).toNat)
        (((days + 719468) % eraDays).toNat -
          startOfYear (yearOfEra ((days + 719468) % eraDays).toNat)) :=
  rfl

private theorem month_bounds {dayOfYear month : Nat} (h : dayOfYear < 366)
    (hmonth : (5 * dayOfYear + 2) / 153 = month) :
    month < 12 ∧ startOfMonth month ≤ dayOfYear ∧ dayOfYear < startOfMonth (month + 1) ∧
      startOfMonth (month + 1) ≤ startOfMonth month + 31 := by
  rw [startOfMonth, startOfMonth]
  omega

private theorem ofYearDay_spec {year : Int} {dayOfYear : Nat} (h : dayOfYear < 366)
    (hyear : yearStart year + dayOfYear < yearStart (year + 1)) :
    (ofYearDay year dayOfYear).Ordinary ∧
      (ofYearDay year dayOfYear).dayNumber = yearStart year + dayOfYear - 719468 := by
  simp only [ofYearDay]
  generalize hmonth : (5 * dayOfYear + 2) / 153 = month
  obtain ⟨hlt, hstart, hend, hlength⟩ := month_bounds h hmonth
  have hcount : monthCount ⟨year + if month ≥ 10 then 1 else 0,
      if month ≥ 10 then month - 9 else month + 3, dayOfYear - startOfMonth month + 1⟩ =
        12 * year + month := by
    rw [monthCount]
    dsimp only
    split <;> omega
  have hnext : yearStart year + dayOfYear < monthStart (12 * year + month + 1) := by
    by_cases hlast : month = 11
    · rw [hlast, monthStart_march]
      exact hyear
    · rw [monthStart_next year (by omega)]
      omega
  refine ⟨⟨?_, ?_, ?_⟩, ?_⟩
  · dsimp only
    split <;> omega
  · dsimp only
    omega
  · rw [hcount, monthStart_month year hlt]
    dsimp only
    omega
  · rw [dayNumber, hcount, monthStart_month year hlt]
    dsimp only
    omega

private theorem yearStart_bounds (era : Int) {day year : Nat} (h : day < eraDays)
    (hyear : yearOfEra day = year) :
    startOfYear year ≤ day ∧ day - startOfYear year < 366 ∧
      era * eraDays + day < yearStart (era * 400 + year + 1) := by
  have hlt := yearOfEra_lt h
  obtain ⟨hstart, hend⟩ := yearOfEra_bounds h
  rw [hyear] at hlt hstart hend
  refine ⟨hstart, ?_⟩
  by_cases hlast : year = 399
  · have hnext : era * 400 + year + 1 = (era + 1) * 400 + (0 : Nat) := by omega
    rw [hnext, yearStart_era (era + 1) (by decide), hlast, startOfYear, startOfYear]
    rw [eraDays] at h ⊢
    omega
  · have hnext : era * 400 + year + 1 = era * 400 + (year + 1 : Nat) := by omega
    have hbefore := hend (by omega)
    rw [hnext, yearStart_era era (by omega)]
    rw [startOfYear] at hstart hbefore ⊢
    rw [startOfYear]
    omega

theorem ofDayNumber_spec (days : Int) :
    (ofDayNumber days).Ordinary ∧ (ofDayNumber days).dayNumber = days := by
  rw [ofDayNumber_eq]
  generalize hday : ((days + 719468) % eraDays).toNat = day
  generalize hera : (days + 719468) / eraDays = era
  generalize hyear : yearOfEra day = year
  have hlt : day < eraDays := by
    rw [eraDays] at hday ⊢
    omega
  have hsplit : days + 719468 = era * eraDays + day := by
    rw [eraDays] at hday hera ⊢
    omega
  obtain ⟨hstart, hdayOfYear, hend⟩ := yearStart_bounds era hlt hyear
  have hyearStart := yearStart_era era (hyear ▸ yearOfEra_lt hlt)
  have hspec := ofYearDay_spec hdayOfYear (by omega : yearStart (era * 400 + year) + _ < _)
  refine ⟨hspec.1, ?_⟩
  rw [hspec.2]
  omega

private theorem Ordinary.monthCount_le {d e : Date} (hd : d.Ordinary) (he : e.Ordinary)
    (h : d.dayNumber ≤ e.dayNumber) : d.monthCount ≤ e.monthCount := by
  apply Int.le_of_not_gt
  intro hlt
  have hstart : monthStart (e.monthCount + 1) ≤ monthStart d.monthCount :=
    monthStart_mono (by omega)
  have hend := he.inMonth
  have hday := hd.day
  rw [dayNumber, dayNumber] at h
  omega

theorem Ordinary.dayNumber_lt_iff {d e : Date} (hd : d.Ordinary) (he : e.Ordinary) :
    d.dayNumber < e.dayNumber ↔
      d.year < e.year ∨ d.year = e.year ∧ (d.month < e.month ∨ d.month = e.month ∧ d.day < e.day) := by
  have hmonths : d.dayNumber < e.dayNumber ↔
      d.monthCount < e.monthCount ∨ d.monthCount = e.monthCount ∧ d.day < e.day := by
    constructor
    · intro h
      have hle := hd.monthCount_le he (Int.le_of_lt h)
      rcases Int.lt_or_eq_of_le hle with hlt | heq
      · exact .inl hlt
      · rw [dayNumber, dayNumber, heq] at h
        exact .inr ⟨heq, by omega⟩
    · rintro (hlt | ⟨heq, hday⟩)
      · have hnext : monthStart (d.monthCount + 1) ≤ monthStart e.monthCount :=
          monthStart_mono hlt
        have hend := hd.inMonth
        have hday := he.day
        rw [dayNumber, dayNumber]
        omega
      · rw [dayNumber, dayNumber, heq]
        omega
  have hdmonth := hd.month
  have hemonth := he.month
  rw [hmonths, monthCount, monthCount]
  omega

end UmlDiagrams.Date
