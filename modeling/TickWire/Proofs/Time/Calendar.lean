import Mathlib.Algebra.GroupWithZero.Nat
import Mathlib.Algebra.Order.BigOperators.Group.List
import Mathlib.Algebra.Order.Group.Nat
import TickWire.Proofs.Time.Date

/-!
# Days of the calendar

The days of the calendar are numbered by adding up the lengths of the years before a date,
and of the months before it in its year.  Taking cycles of years and then months off a number
of days gives the date of that number, and dates are ordered as their numbers are.
-/

namespace TickWire

namespace Calendar

/-- The number of days of a year. -/
def daysInYear (year : Nat) : Nat := if isLeapYear year then 366 else 365

/-- The number of days from the first day of year 0 to the first day of a year. -/
def daysBeforeYear (year : Nat) : Nat := ((List.range year).map daysInYear).sum

/-- The number of days of a year before the first day of a month. -/
def daysBeforeMonth (year month : Nat) : Nat :=
  ((List.range month).map (daysInMonth year)).sum

/-- The number of a day, counted from the first day of year 0. -/
def dayNumber (year month day : Nat) : Nat :=
  daysBeforeYear year + daysBeforeMonth year month + (day - 1)

/-! ## Years -/

theorem daysBeforeYear_succ (year : Nat) :
    daysBeforeYear (year + 1) = daysBeforeYear year + daysInYear year := by
  simp [daysBeforeYear, List.range_succ]

/-- Days are only added from one year or month to the next. -/
theorem sum_range_le (days : Nat → Nat) {count later : Nat} (before : count ≤ later) :
    ((List.range count).map days).sum ≤ ((List.range later).map days).sum :=
  ((List.range_sublist.mpr before).map days).sum_le_sum fun _ _ => Nat.zero_le _

theorem daysBeforeYear_le {year later : Nat} (before : year ≤ later) :
    daysBeforeYear year ≤ daysBeforeYear later :=
  sum_range_le daysInYear before

theorem le_daysInYear (year : Nat) : 365 ≤ daysInYear year := by
  unfold daysInYear
  split <;> decide

theorem daysInYear_of_leap {year : Nat} (four : year % 4 = 0)
    (hundred : year % 100 ≠ 0 ∨ year % 400 = 0) : daysInYear year = 366 :=
  if_pos (decide_eq_true ⟨four, hundred⟩)

/-- A four adds a day to a year, a hundred takes it off, and four hundred adds it again. -/
theorem daysInYear_eq (year : Nat) :
    daysInYear year + (if year % 100 = 0 then 1 else 0) =
      365 + (if year % 4 = 0 then 1 else 0) + (if year % 400 = 0 then 1 else 0) := by
  simp only [daysInYear, isLeapYear, decide_eq_true_eq]
  split <;> split <;> split <;> split <;> omega

/-- The days of year 0, which has one more than 365, and of the years after it. -/
theorem daysBeforeYear_succ_eq (year : Nat) :
    daysBeforeYear (year + 1) + year / 100 = 366 + 365 * year + year / 4 + year / 400 := by
  induction year with
  | zero => rfl
  | succ year ih =>
      have next := daysBeforeYear_succ (year + 1)
      have days := daysInYear_eq (year + 1)
      have fours := @Nat.succ_div year 4
      have hundreds := @Nat.succ_div year 100
      have fourHundreds := @Nat.succ_div year 400
      simp only [Nat.dvd_iff_mod_eq_zero] at fours hundreds fourHundreds
      omega

/-- The days before a year that begins so many eras, centuries, cycles of four years and
years after year 1. -/
theorem daysBeforeYear_of_cycles {century cycle year : Nat} (era : Nat) (centuries : century ≤ 3)
    (cycles : cycle ≤ 24) (years : year ≤ 3) :
    daysBeforeYear (era * 400 + century * 100 + cycle * 4 + year + 1) =
      366 + era * 146097 + century * 36524 + cycle * 1461 + year * 365 := by
  have days := daysBeforeYear_succ_eq (era * 400 + century * 100 + cycle * 4 + year)
  have fours : (era * 400 + century * 100 + cycle * 4 + year) / 4 =
      era * 100 + century * 25 + cycle := by omega
  have hundreds : (era * 400 + century * 100 + cycle * 4 + year) / 100 =
      era * 4 + century := by omega
  have fourHundreds : (era * 400 + century * 100 + cycle * 4 + year) / 400 = era := by omega
  rw [fours, hundreds, fourHundreds] at days
  omega

/-- The year that holds a day, and the days of that year before it. -/
theorem yearOfDay_spec (days : Nat) :
    daysBeforeYear (yearOfDay days).1 + (yearOfDay days).2 = days + 366 ∧
      (yearOfDay days).2 < daysInYear (yearOfDay days).1 := by
  unfold yearOfDay
  dsimp only
  generalize era_eq : days / 146097 = era
  generalize inEra_eq : days % 146097 = inEra
  generalize century_eq : min (inEra / 36524) 3 = century
  generalize inCentury_eq : inEra - century * 36524 = inCentury
  generalize cycle_eq : inCentury / 1461 = cycle
  generalize inCycle_eq : inCentury % 1461 = inCycle
  generalize year_eq : min (inCycle / 365) 3 = year
  -- A last century and a last year of four have a day more than those before them.
  have inCentury_le : inCentury ≤ 36524 ∧ (inCentury = 36524 → century = 3) := by omega
  have inCycle_le : inCycle ≤ 1460 ∧ (cycle = 24 → inCycle = 1460 → century = 3) := by omega
  have before := @daysBeforeYear_of_cycles century cycle year era (by omega) (by omega)
    (by omega)
  refine ⟨by omega, ?_⟩
  have atLeast := le_daysInYear (era * 400 + century * 100 + cycle * 4 + year + 1)
  by_cases common : inCycle - year * 365 < 365
  · exact Nat.lt_of_lt_of_le common atLeast
  · have leap := @daysInYear_of_leap (era * 400 + century * 100 + cycle * 4 + year + 1)
      (by omega) (by omega)
    omega

/-! ## Months -/

theorem daysBeforeMonth_succ (year month : Nat) :
    daysBeforeMonth year (month + 1) = daysBeforeMonth year month + daysInMonth year month := by
  simp [daysBeforeMonth, List.range_succ]

theorem daysBeforeMonth_le (year : Nat) {month later : Nat} (before : month ≤ later) :
    daysBeforeMonth year month ≤ daysBeforeMonth year later :=
  sum_range_le (daysInMonth year) before

/-- The months of a year make up the year. -/
theorem daysBeforeMonth_thirteen (year : Nat) : daysBeforeMonth year 13 = daysInYear year := by
  unfold daysInYear
  cases leap : isLeapYear year <;> simp [daysBeforeMonth, List.range_succ, daysInMonth, leap]

/-- The month that holds a day of consecutive months, and its days before that day. -/
theorem monthOfDay_spec (year : Nat) (count : Nat) {first day : Nat}
    (after : daysBeforeMonth year first ≤ day)
    (within : day < daysBeforeMonth year (first + count)) :
    ∃ month before,
      monthOfDay year (List.range' first count) (day - daysBeforeMonth year first) =
        (month, before + 1) ∧
      before < daysInMonth year month ∧ daysBeforeMonth year month + before = day := by
  induction count generalizing first with
  | zero => exact absurd after (Nat.not_le_of_lt within)
  | succ count ih =>
      have next := daysBeforeMonth_succ year first
      rw [List.range'_succ, monthOfDay]
      split
      next holds => exact ⟨first, _, rfl, holds, by omega⟩
      next beyond =>
        have later : daysBeforeMonth year (first + 1) ≤ day := by omega
        have rest : day - daysBeforeMonth year first - daysInMonth year first =
            day - daysBeforeMonth year (first + 1) := by omega
        rw [rest]
        exact ih later (by rwa [Nat.add_assoc, Nat.add_comm 1])

/-! ## Dates -/

/-- The date of a number of days has that number of days before it. -/
theorem ofDays_spec (days : Nat) :
    ∃ year month day, ofDays days = (year, month, day) ∧ 1 ≤ day ∧ day ≤ daysInMonth year month ∧
      dayNumber year month day = days + 366 := by
  obtain ⟨number, within⟩ := yearOfDay_spec days
  rw [← daysBeforeMonth_thirteen] at within
  obtain ⟨month, before, found, inMonth, inYear⟩ := monthOfDay_spec _ 12 (Nat.zero_le _) within
  refine ⟨(yearOfDay days).1, month, before + 1, ?_, by omega, by omega, ?_⟩
  · rw [ofDays]
    exact congrArg _ found
  · rw [dayNumber]
    omega

section Order

variable {year month day otherYear otherMonth otherDay : Nat}

theorem IsDate.dayOfMonth_lt (isDate : IsDate year month day) :
    daysBeforeMonth year month + (day - 1) < daysBeforeMonth year (month + 1) := by
  obtain ⟨-, positive, within⟩ := isDate
  rw [daysBeforeMonth_succ]
  omega

theorem IsDate.dayNumber_lt (isDate : IsDate year month day) :
    dayNumber year month day < daysBeforeYear (year + 1) := by
  have month_le := isDate.month_bounds.2
  have inYear := Nat.lt_of_lt_of_le isDate.dayOfMonth_lt
    (daysBeforeMonth_le year (Nat.succ_le_succ month_le))
  rw [daysBeforeMonth_thirteen] at inYear
  rw [daysBeforeYear_succ, dayNumber]
  omega

theorem dayNumber_lt_of_earlier (isDate : IsDate year month day)
    (isOtherDate : IsDate otherYear otherMonth otherDay)
    (earlier : year < otherYear ∨
      year = otherYear ∧ (month < otherMonth ∨ month = otherMonth ∧ day < otherDay)) :
    dayNumber year month day < dayNumber otherYear otherMonth otherDay := by
  obtain earlierYear | ⟨rfl, earlierMonth | ⟨rfl, earlierDay⟩⟩ := earlier
  · calc dayNumber year month day
      _ < daysBeforeYear (year + 1) := isDate.dayNumber_lt
      _ ≤ daysBeforeYear otherYear := daysBeforeYear_le earlierYear
      _ ≤ dayNumber otherYear otherMonth otherDay := by
        rw [dayNumber, Nat.add_assoc]
        exact Nat.le_add_right _ _
  · have inMonth := isDate.dayOfMonth_lt
    have months : daysBeforeMonth year (month + 1) ≤ daysBeforeMonth year otherMonth :=
      daysBeforeMonth_le year earlierMonth
    rw [dayNumber, dayNumber]
    omega
  · have positive := isDate.2.1
    rw [dayNumber, dayNumber]
    omega

/-- Dates are ordered by year, month and day. -/
theorem dayNumber_lt_iff (isDate : IsDate year month day)
    (isOtherDate : IsDate otherYear otherMonth otherDay) :
    dayNumber year month day < dayNumber otherYear otherMonth otherDay ↔
      year < otherYear ∨
        year = otherYear ∧ (month < otherMonth ∨ month = otherMonth ∧ day < otherDay) := by
  refine ⟨fun less => ?_, dayNumber_lt_of_earlier isDate isOtherDate⟩
  refine Decidable.byContradiction fun notEarlier => ?_
  by_cases same : year = otherYear ∧ month = otherMonth ∧ day = otherDay
  · obtain ⟨rfl, rfl, rfl⟩ := same
    exact Nat.lt_irrefl _ less
  · exact Nat.lt_asymm less (dayNumber_lt_of_earlier isOtherDate isDate (by omega))

theorem dayNumber_eq_iff (isDate : IsDate year month day)
    (isOtherDate : IsDate otherYear otherMonth otherDay) :
    dayNumber year month day = dayNumber otherYear otherMonth otherDay ↔
      year = otherYear ∧ month = otherMonth ∧ day = otherDay := by
  have less := dayNumber_lt_iff isDate isOtherDate
  have more := dayNumber_lt_iff isOtherDate isDate
  constructor
  · omega
  · rintro ⟨rfl, rfl, rfl⟩
    rfl

end Order

end Calendar

/-- The number of the day of a date. -/
def Date.dayNumber (date : Date) : Nat := Calendar.dayNumber date.year date.month date.day

/-- A date lies before another where its day does. -/
theorem Date.before_iff (date other : Date) :
    date.before other = true ↔ date.dayNumber < other.dayNumber := by
  have month := date.isDate.month_bounds
  have otherMonth := other.isDate.month_bounds
  have day := date.isDate.day_le
  have otherDay := other.isDate.day_le
  rw [before, decide_eq_true_iff, dayNumber, dayNumber,
    Calendar.dayNumber_lt_iff date.isDate other.isDate, packed, packed]
  omega

end TickWire
