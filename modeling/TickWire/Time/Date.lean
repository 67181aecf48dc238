import TickWire.Text.Decimal

/-!
# Calendar dates

Dates of the proleptic Gregorian calendar from year 0 to year 9999, their order,
their text, and the days of the calendar counted from the first day of year 1.
-/

namespace TickWire

namespace Calendar

def isLeapYear (year : Nat) : Bool :=
  decide (year % 4 = 0 ∧ (year % 100 ≠ 0 ∨ year % 400 = 0))

/-- The number of days of a month, zero where there is no such month. -/
def daysInMonth (year month : Nat) : Nat :=
  match month with
  | 1 | 3 | 5 | 7 | 8 | 10 | 12 => 31
  | 4 | 6 | 9 | 11 => 30
  | 2 => if isLeapYear year then 29 else 28
  | _ => 0

/-- Whether year, month and day name a date of the calendar. -/
def IsDate (year month day : Nat) : Prop :=
  year ≤ 9999 ∧ 1 ≤ day ∧ day ≤ daysInMonth year month

instance (year month day : Nat) : Decidable (IsDate year month day) :=
  inferInstanceAs (Decidable (_ ∧ _ ∧ _))

/-- The year that holds a day counted from the first day of year 1, and the number of
days of that year before it.  Each cycle of four hundred, one hundred, four and one
years is taken off in turn; the last century of four and the last year of four are
the long ones. -/
def yearOfDay (days : Nat) : Nat × Nat :=
  let inEra := days % 146097
  let century := min (inEra / 36524) 3
  let inCentury := inEra - century * 36524
  let inCycle := inCentury % 1461
  let year := min (inCycle / 365) 3
  (days / 146097 * 400 + century * 100 + inCentury / 1461 * 4 + year + 1,
    inCycle - year * 365)

/-- The month that holds a day of the year and the day of that month, both counted
from one, trying `months` in turn. -/
def monthOfDay (year : Nat) : (months : List Nat) → (day : Nat) → Nat × Nat
  | [], day => (12, day + 1)
  | month :: later, day =>
      if day < daysInMonth year month then (month, day + 1)
      else monthOfDay year later (day - daysInMonth year month)

/-- The year, month and day of a day counted from the first day of year 1. -/
def ofDays (days : Nat) : Nat × Nat × Nat :=
  let (year, dayOfYear) := yearOfDay days
  let (month, day) := monthOfDay year [1, 2, 3, 4, 5, 6, 7, 8, 9, 10, 11, 12] dayOfYear
  (year, month, day)

end Calendar

/-- A date of the calendar.  Years are natural numbers: dates before year 0, which an
interval could be given or `Metadata.resolve` be asked about, are left out.  No text of
a date and no number that packs one names them, so none is ever read. -/
structure Date where
  year : Nat
  month : Nat
  day : Nat
  isDate : Calendar.IsDate year month day
  deriving DecidableEq

namespace Date

/-- The date of this year, month and day, if there is one. -/
def of? (year month day : Nat) : Option Date :=
  if valid : Calendar.IsDate year month day then some ⟨year, month, day, valid⟩ else none

/-- The digits of a date read as one number, which orders dates as time does. -/
def packed (date : Date) : Nat := date.year * 10000 + date.month * 100 + date.day

/-- The date whose digits are those of a number. -/
def ofPacked? (raw : Nat) : Option Date := of? (raw / 10000) (raw / 100 % 100) (raw % 100)

/-- Whether one date lies before another. -/
def before (left right : Date) : Bool := decide (left.packed < right.packed)

/-- A date as year, month and day with dashes. -/
def text (date : Date) : String :=
  String.ofList <| Decimal.fixed 4 date.year ++ '-' :: Decimal.fixed 2 date.month
    ++ '-' :: Decimal.fixed 2 date.day

/-- Reads the text of a date. -/
def parse? (text : String) : Option Date :=
  match text.toList with
  | [y1, y2, y3, y4, '-', m1, m2, '-', d1, d2] => do
      let year ← Decimal.digits? [y1, y2, y3, y4]
      let month ← Decimal.digits? [m1, m2]
      let day ← Decimal.digits? [d1, d2]
      of? year month day
  | _ => none

end Date

end TickWire
