import Mathlib.Data.List.Forall2
import TickWire.Proofs.Text.Decimal
import TickWire.Proofs.Time.Calendar
import TickWire.Text.Segment
import TickWire.Time.Timestamp

/-!
# Timestamps as text

The text of a timestamp shows an instant of the calendar in a fixed number of characters,
greatest part first.  So texts are ordered as the parts are, and the parts as the instants,
which reading a text gives back.
-/

namespace TickWire

namespace CivilTime

/-- Whether every part of a calendar time is in its range. -/
structure IsValid (time : CivilTime) : Prop where
  isDate : Calendar.IsDate time.year time.month time.day
  hour_lt : time.hour < 24
  minute_lt : time.minute < 60
  second_lt : time.second < 60
  nanosecond_lt : time.nanosecond < 1000000000

/-- The nanoseconds from the first instant of 1970 to a calendar time. -/
def instant (time : CivilTime) : Int :=
  let days : Int :=
    Calendar.dayNumber time.year time.month time.day - Calendar.dayNumber 1970 1 1
  (((days * 24 + time.hour) * 60 + time.minute) * 60 + time.second) * 1000000000
    + time.nanosecond

/-- Reads a calendar time in its thirty characters. -/
def read? (text : List Char) : Option CivilTime := do
  let (year, text) ← Decimal.takeFixed? 4 text
  let text ← Segment.dropOpening? ['-'] text
  let (month, text) ← Decimal.takeFixed? 2 text
  let text ← Segment.dropOpening? ['-'] text
  let (day, text) ← Decimal.takeFixed? 2 text
  let text ← Segment.dropOpening? ['T'] text
  let (hour, text) ← Decimal.takeFixed? 2 text
  let text ← Segment.dropOpening? [':'] text
  let (minute, text) ← Decimal.takeFixed? 2 text
  let text ← Segment.dropOpening? [':'] text
  let (second, text) ← Decimal.takeFixed? 2 text
  let text ← Segment.dropOpening? ['.'] text
  let (nanosecond, text) ← Decimal.takeFixed? 9 text
  if text = ['Z'] then some { year, month, day, hour, minute, second, nanosecond } else none

/-- The form of a calendar time; a zero stands for any digit. -/
def form : String := "0000-00-00T00:00:00.000000000Z"

/-- Whether a text is of a form: a digit where the form has a zero, and elsewhere what the
form has. -/
def HasForm (form text : List Char) : Prop :=
  List.Forall₂ (fun mark char => if mark = '0' then char.isDigit = true else char = mark)
    form text

/-! ## Reading a calendar time -/

theorem text_eq (time : CivilTime) :
    time.text = Decimal.fixed 4 time.year ++ '-' :: (Decimal.fixed 2 time.month
      ++ '-' :: (Decimal.fixed 2 time.day ++ 'T' :: (Decimal.fixed 2 time.hour
      ++ ':' :: (Decimal.fixed 2 time.minute ++ ':' :: (Decimal.fixed 2 time.second
      ++ '.' :: (Decimal.fixed 9 time.nanosecond ++ ['Z'])))))) := by
  simp only [text, List.append_assoc, List.cons_append]

@[simp] theorem length_text (time : CivilTime) : time.text.length = 30 := by
  simp [text_eq]

theorem hasForm_fixed (width number : Nat) {form rest : List Char}
    (hasForm : HasForm form rest) :
    HasForm (List.replicate width '0' ++ form) (Decimal.fixed width number ++ rest) := by
  refine List.rel_append ?_ hasForm
  induction width generalizing number with
  | zero => exact .nil
  | succ width ih =>
      rw [List.replicate_succ', Decimal.fixed]
      exact List.rel_append (ih _)
        (.cons (Decimal.isDigit_digit (Nat.mod_lt number (by decide))) .nil)

theorem hasForm_mark {mark : Char} {form rest : List Char} (notZero : mark ≠ '0')
    (hasForm : HasForm form rest) : HasForm (mark :: form) (mark :: rest) :=
  .cons (by rw [if_neg notZero]) hasForm

theorem hasForm_text (time : CivilTime) : HasForm form.toList time.text := by
  rw [text_eq]
  exact hasForm_fixed 4 _ <| hasForm_mark (by decide) <|
    hasForm_fixed 2 _ <| hasForm_mark (by decide) <|
    hasForm_fixed 2 _ <| hasForm_mark (by decide) <|
    hasForm_fixed 2 _ <| hasForm_mark (by decide) <|
    hasForm_fixed 2 _ <| hasForm_mark (by decide) <|
    hasForm_fixed 2 _ <| hasForm_mark (by decide) <|
    hasForm_fixed 9 _ <| hasForm_mark (by decide) .nil

namespace IsValid

variable {time other : CivilTime}

theorem month_lt (valid : time.IsValid) : time.month < 100 := by
  have bounds := valid.isDate.month_bounds
  omega

theorem day_lt (valid : time.IsValid) : time.day < 100 := by
  have bound := valid.isDate.day_le
  omega

theorem read?_text (valid : time.IsValid) : read? time.text = some time := by
  have skip (mark : Char) (rest : List Char) :
      Segment.dropOpening? [mark] (mark :: rest) = some rest :=
    Segment.dropOpening?_eq_some_iff.mpr rfl
  have two {number : Nat} (small : number < 100) (rest : List Char) :
      Decimal.takeFixed? 2 (Decimal.fixed 2 number ++ rest) = some (number, rest) :=
    Decimal.takeFixed?_fixed (by decide) small rest
  have year (rest : List Char) :
      Decimal.takeFixed? 4 (Decimal.fixed 4 time.year ++ rest) = some (time.year, rest) :=
    Decimal.takeFixed?_fixed (by decide) (Nat.lt_succ_of_le valid.isDate.1) rest
  have nanosecond (rest : List Char) :
      Decimal.takeFixed? 9 (Decimal.fixed 9 time.nanosecond ++ rest) =
        some (time.nanosecond, rest) :=
    Decimal.takeFixed?_fixed (by decide) valid.nanosecond_lt rest
  have hour := two (Nat.lt_trans valid.hour_lt (by decide))
  have minute := two (Nat.lt_trans valid.minute_lt (by decide))
  have second := two (Nat.lt_trans valid.second_lt (by decide))
  simp only [read?, text_eq, skip, year, two valid.month_lt, two valid.day_lt, hour, minute,
    second, nanosecond, Option.bind_eq_bind, Option.bind_some, if_true]

/-- Texts are ordered as the parts that they show. -/
theorem text_lt_iff (valid : time.IsValid) (otherValid : other.IsValid) :
    time.text < other.text ↔
      time.year < other.year ∨ time.year = other.year ∧
      (time.month < other.month ∨ time.month = other.month ∧
      (time.day < other.day ∨ time.day = other.day ∧
      (time.hour < other.hour ∨ time.hour = other.hour ∧
      (time.minute < other.minute ∨ time.minute = other.minute ∧
      (time.second < other.second ∨ time.second = other.second ∧
        time.nanosecond < other.nanosecond))))) := by
  have two {one other : Nat} (small : one < 100) (otherSmall : other < 100)
      (mark : Char) (back otherBack : List Char) :
      Decimal.fixed 2 one ++ mark :: back < Decimal.fixed 2 other ++ mark :: otherBack ↔
        one < other ∨ one = other ∧ back < otherBack := by
    rw [Decimal.fixed_append_lt_iff small otherSmall, List.cons_lt_cons_self]
  have hour := two (Nat.lt_trans valid.hour_lt (by decide))
    (Nat.lt_trans otherValid.hour_lt (by decide))
  have minute := two (Nat.lt_trans valid.minute_lt (by decide))
    (Nat.lt_trans otherValid.minute_lt (by decide))
  have second := two (Nat.lt_trans valid.second_lt (by decide))
    (Nat.lt_trans otherValid.second_lt (by decide))
  rw [text_eq, text_eq, Decimal.fixed_append_lt_iff (Nat.lt_succ_of_le valid.isDate.1)
    (Nat.lt_succ_of_le otherValid.isDate.1), List.cons_lt_cons_self,
    two valid.month_lt otherValid.month_lt, two valid.day_lt otherValid.day_lt, hour, minute,
    second, Decimal.fixed_append_lt_iff valid.nanosecond_lt otherValid.nanosecond_lt]
  simp only [List.lt_irrefl, and_false, or_false]

/-- Texts are ordered as the instants that they show. -/
theorem text_lt_iff_instant_lt (valid : time.IsValid) (otherValid : other.IsValid) :
    time.text < other.text ↔ time.instant < other.instant := by
  have dates (later : Prop) :
      (time.year < other.year ∨ time.year = other.year ∧
        (time.month < other.month ∨ time.month = other.month ∧
        (time.day < other.day ∨ time.day = other.day ∧ later))) ↔
      Calendar.dayNumber time.year time.month time.day <
          Calendar.dayNumber other.year other.month other.day ∨
        Calendar.dayNumber time.year time.month time.day =
          Calendar.dayNumber other.year other.month other.day ∧ later := by
    rw [Calendar.dayNumber_lt_iff valid.isDate otherValid.isDate,
      Calendar.dayNumber_eq_iff valid.isDate otherValid.isDate]
    tauto
  rw [text_lt_iff valid otherValid, dates, instant, instant]
  obtain ⟨-, hour, minute, second, nanosecond⟩ := valid
  obtain ⟨-, otherHour, otherMinute, otherSecond, otherNanosecond⟩ := otherValid
  omega

end IsValid

/-! ## The calendar time of a timestamp -/

theorem dayNumber_epoch : Calendar.dayNumber 1970 1 1 = epochDay + 366 := by
  have years : Calendar.daysBeforeYear 1970 + 19 = 366 + 365 * 1969 + 492 + 4 :=
    Calendar.daysBeforeYear_succ_eq 1969
  have months : Calendar.daysBeforeMonth 1970 1 = 0 := rfl
  rw [Calendar.dayNumber, months, epochDay]
  omega

/-- So many nanoseconds as a timestamp counts end in the year 2554. -/
theorem year_le {year month day nanoseconds : Nat} (fits : nanoseconds < 2 ^ 64)
    (number : Calendar.dayNumber year month day =
      epochDay + nanoseconds / 1000000000 / 86400 + 366) : year ≤ 2554 := by
  refine Nat.le_of_not_lt fun beyond => ?_
  have before : Calendar.daysBeforeYear 2555 + 25 = 366 + 365 * 2554 + 638 + 6 :=
    Calendar.daysBeforeYear_succ_eq 2554
  have years : Calendar.daysBeforeYear 2555 ≤ Calendar.daysBeforeYear year :=
    Calendar.daysBeforeYear_le beyond
  rw [Calendar.dayNumber, epochDay] at number
  omega

/-- Every number of nanoseconds that a timestamp counts has a calendar time, which is that
many nanoseconds after the first instant of 1970. -/
theorem exists_ofNanoseconds? {nanoseconds : Nat} (fits : nanoseconds < 2 ^ 64) :
    ∃ time, ofNanoseconds? nanoseconds = some time ∧ time.IsValid ∧
      time.instant = nanoseconds := by
  obtain ⟨year, month, day, found, positive, within, number⟩ :=
    Calendar.ofDays_spec (epochDay + nanoseconds / 1000000000 / 86400)
  have lastYear : year ≤ 9999 := Nat.le_trans (year_le fits number) (by decide)
  refine ⟨ofNanoseconds nanoseconds, ?_, ?_, ?_⟩
  · rw [ofNanoseconds?, ofNanoseconds, found]
    exact if_pos lastYear
  · rw [ofNanoseconds, found]
    exact ⟨⟨lastYear, positive, within⟩, by dsimp only; omega, Nat.mod_lt _ (by decide),
      Nat.mod_lt _ (by decide), Nat.mod_lt _ (by decide)⟩
  · rw [instant, dayNumber_epoch, ofNanoseconds, found]
    dsimp only
    rw [number]
    omega

end CivilTime

namespace Timestamp

/-- A timestamp that is defined is shown as its calendar time. -/
theorem text_eq_civil {timestamp : Timestamp} (isDefined : timestamp ≠ undefined) :
    ∃ time, timestamp.civil? = some time ∧ timestamp.text = String.ofList time.text ∧
      time.IsValid ∧ time.instant = timestamp.nanoseconds.toNat := by
  obtain ⟨time, found, valid, instant⟩ :=
    CivilTime.exists_ofNanoseconds? timestamp.nanoseconds.toNat_lt
  refine ⟨time, ?_, ?_, valid, instant⟩
  · rw [civil?, if_neg isDefined, found]
  · rw [text, format, if_neg isDefined, found]
    simp [Padded.text, Padded.around]

/-- A timestamp that is defined is shown as a calendar time of thirty characters, from which
its instant is read back, and not as a number.  Two of them are ordered as text as they are in
time. -/
theorem text_sorts_as_time :
    (∀ timestamp : Timestamp, timestamp ≠ undefined →
      timestamp.text.length = 30 ∧
      CivilTime.HasForm CivilTime.form.toList timestamp.text.toList ∧
      ∃ time, timestamp.civil? = some time ∧ time.IsValid ∧
        CivilTime.read? timestamp.text.toList = some time ∧
        time.instant = timestamp.nanoseconds.toNat) ∧
    ∀ one other : Timestamp, one ≠ undefined → other ≠ undefined →
      (one.text < other.text ↔ one.nanoseconds < other.nanoseconds) := by
  constructor
  · intro timestamp isDefined
    obtain ⟨time, found, shown, valid, instant⟩ := text_eq_civil isDefined
    rw [shown, String.toList_ofList]
    exact ⟨by simp, time.hasForm_text, time, found, valid, valid.read?_text, instant⟩
  · intro one other isDefined isOtherDefined
    obtain ⟨time, -, shown, valid, instant⟩ := text_eq_civil isDefined
    obtain ⟨otherTime, -, otherShown, otherValid, otherInstant⟩ := text_eq_civil isOtherDefined
    rw [shown, otherShown]
    change (String.ofList time.text).toList < (String.ofList otherTime.text).toList ↔ _
    rw [String.toList_ofList, String.toList_ofList, valid.text_lt_iff_instant_lt otherValid,
      instant, otherInstant, Int.ofNat_lt, UInt64.lt_iff_toNat_lt]

/-- The last instant of a leap day and the one after it. -/
theorem text_sorts_as_time_leap_day :
    let one : Timestamp := ⟨951868799999999999⟩
    let other : Timestamp := ⟨951868800000000000⟩
    one ≠ undefined ∧ other ≠ undefined ∧ one.text < other.text ∧
      one.text.length = 30 ∧ other.text.length = 30 ∧
      one.text = "2000-02-29T23:59:59.999999999Z" ∧
      other.text = "2000-03-01T00:00:00.000000000Z" := by
  intro one other
  have isDefined : one ≠ undefined := by decide
  have isOtherDefined : other ≠ undefined := by decide
  have sorts := text_sorts_as_time.2 one other isDefined isOtherDefined
  exact ⟨isDefined, isOtherDefined, sorts.mpr (by decide),
    (text_sorts_as_time.1 one isDefined).1, (text_sorts_as_time.1 other isOtherDefined).1,
    by decide +kernel, by decide +kernel⟩

end Timestamp

end TickWire
