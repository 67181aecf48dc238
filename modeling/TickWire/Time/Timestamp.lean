import TickWire.Text.Padded
import TickWire.Time.Date

/-!
# Timestamps

A timestamp counts nanoseconds since the first instant of 1970.  The greatest 64-bit
number stands for an undefined timestamp.  Every other timestamp is shown as a
calendar time of thirty characters, which order as the timestamps do.
-/

namespace TickWire

/-- An instant of the calendar, in coordinated universal time. -/
structure CivilTime where
  year : Nat
  month : Nat
  day : Nat
  hour : Nat
  minute : Nat
  second : Nat
  nanosecond : Nat
  deriving DecidableEq, Repr

namespace CivilTime

/-- The day count of the first day of 1970, from the first day of year 1. -/
def epochDay : Nat := 719162

/-- The calendar time a number of nanoseconds after the first instant of 1970. -/
def ofNanoseconds (nanoseconds : Nat) : CivilTime :=
  let seconds := nanoseconds / 1000000000
  let (year, month, day) := Calendar.ofDays (epochDay + seconds / 86400)
  let ofDay := seconds % 86400
  { year, month, day
    hour := ofDay / 3600
    minute := ofDay / 60 % 60
    second := ofDay % 60
    nanosecond := nanoseconds % 1000000000 }

/-- The calendar time a number of nanoseconds after the first instant of 1970, up to the
end of the last year of four digits. -/
def ofNanoseconds? (nanoseconds : Nat) : Option CivilTime :=
  let time := ofNanoseconds nanoseconds
  if time.year ≤ 9999 then some time else none

/-- The text of a calendar time, down to the nanosecond. -/
def text (time : CivilTime) : List Char :=
  Decimal.fixed 4 time.year ++ '-' :: Decimal.fixed 2 time.month
    ++ '-' :: Decimal.fixed 2 time.day
    ++ 'T' :: Decimal.fixed 2 time.hour ++ ':' :: Decimal.fixed 2 time.minute
    ++ ':' :: Decimal.fixed 2 time.second
    ++ '.' :: Decimal.fixed 9 time.nanosecond ++ ['Z']

end CivilTime

/-- Nanoseconds since the first instant of 1970. -/
structure Timestamp where
  nanoseconds : UInt64
  deriving DecidableEq

namespace Timestamp

/-- The sentinel of an undefined timestamp. -/
def undefined : Timestamp := ⟨18446744073709551615⟩

/-- The calendar time of a timestamp that is defined. -/
def civil? (timestamp : Timestamp) : Option CivilTime :=
  if timestamp = undefined then none
  else CivilTime.ofNanoseconds? timestamp.nanoseconds.toNat

/-- A timestamp laid out by a format, as text; one beyond the calendar is shown as a
number. -/
def format (layout : Format) (timestamp : Timestamp) : String :=
  String.ofList <|
    if timestamp = undefined then Padded.text layout "UNDEF_TIMESTAMP".toList
    else match CivilTime.ofNanoseconds? timestamp.nanoseconds.toNat with
      | some time => Padded.text layout time.text
      | none => Padded.number layout false (Decimal.natural timestamp.nanoseconds.toNat)

def text (timestamp : Timestamp) : String := timestamp.format {}

end Timestamp

end TickWire
