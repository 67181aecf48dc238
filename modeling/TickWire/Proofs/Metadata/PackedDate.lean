import TickWire.Proofs.Metadata.Fields
import TickWire.Proofs.Time.Calendar

/-!
# Dates of mappings

The dates of a mapping are stored as the number of their eight digits.  Most numbers are the
digits of no date and are refused.  What is left are the numbers of the dates of the calendar,
one for each, in the order of time.
-/

namespace TickWire

namespace Date

theorem packed_eq (date : Date) :
    date.packed = 10000 * date.year + 100 * date.month + date.day := by
  rw [packed, Nat.mul_comm date.year, Nat.mul_comm date.month]

/-- A number has the digits of the date that is found in it. -/
theorem packed_of_ofPacked? {raw : Nat} {date : Date} (found : ofPacked? raw = some date) :
    date.packed = raw := by
  rw [ofPacked?, of?] at found
  split at found
  next =>
    cases found
    simp only [packed]
    omega
  next => cases found

/-- Dates are packed in the order of time. -/
theorem packed_lt_packed_iff (date other : Date) :
    date.packed < other.packed ↔ date.dayNumber < other.dayNumber := by
  rw [← before_iff, before, decide_eq_true_iff]

end Date

namespace BlockReader

theorem ofPacked?_of_dateOf {raw : Nat} {date : Date} (read : dateOf raw = .ok date) :
    Date.ofPacked? raw = some date := by
  unfold dateOf at read
  dsimp only at read
  split at read
  next => cases read
  next =>
    split at read
    next found =>
      cases read
      exact found
    next => cases read

/-- A number is read as the date that is packed into it, and refused if there is none. -/
theorem dateOf_eq_ok_iff {raw : Nat} {date : Date} :
    dateOf raw = .ok date ↔ date.packed = raw := by
  constructor
  · intro read
    exact Date.packed_of_ofPacked? (ofPacked?_of_dateOf read)
  · rintro rfl
    exact dateOf_packed date

theorem exists_dateOf_iff (raw : Nat) :
    (∃ date, dateOf raw = .ok date) ↔
      ∃ year month day, Calendar.IsDate year month day ∧
        raw = 10000 * year + 100 * month + day := by
  constructor
  · rintro ⟨date, read⟩
    refine ⟨date.year, date.month, date.day, date.isDate, ?_⟩
    rw [← dateOf_eq_ok_iff.mp read, date.packed_eq]
  · rintro ⟨year, month, day, isDate, rfl⟩
    exact ⟨⟨year, month, day, isDate⟩, dateOf_eq_ok_iff.mpr (Date.packed_eq _)⟩

/-- Packed dates are exact.  A number is read exactly if it has the digits of a date of the
calendar, as the date of these digits, and packing that date gives the number again; every date
is read back from its digits, which fit into four bytes; and dates are packed in the order of
time. -/
theorem dateOf_exact :
    (∀ raw : UInt32,
      ((∃ date, dateOf raw.toNat = .ok date) ↔
        ∃ year month day, Calendar.IsDate year month day ∧
          raw.toNat = 10000 * year + 100 * month + day) ∧
      ∀ date : Date,
        (dateOf raw.toNat = .ok date ↔
          raw.toNat = 10000 * date.year + 100 * date.month + date.day) ∧
        (dateOf raw.toNat = .ok date → date.packed = raw.toNat)) ∧
    (∀ date : Date, date.packed < UInt32.size ∧ dateOf date.packed = .ok date) ∧
    ∀ date other : Date, date.packed < other.packed ↔ date.dayNumber < other.dayNumber := by
  refine ⟨fun raw => ⟨exists_dateOf_iff raw.toNat, fun date => ⟨?_, dateOf_eq_ok_iff.mp⟩⟩,
    fun date => ⟨?_, dateOf_packed date⟩, Date.packed_lt_packed_iff⟩
  · rw [dateOf_eq_ok_iff, date.packed_eq, eq_comm]
  · exact Nat.lt_trans date.packed_lt (by decide)

/-- The last day of a February of a leap year, after which comes the first of March. -/
theorem dateOf_exact_leap_day :
    ∃ date other, dateOf (20240229 : UInt32).toNat = .ok date ∧ date.packed = 20240229 ∧
      dateOf (20240301 : UInt32).toNat = .ok other ∧ date.dayNumber < other.dayNumber := by
  obtain ⟨numbers, -, ordered⟩ := dateOf_exact
  obtain ⟨date, read⟩ := (numbers 20240229).1.mpr ⟨2024, 2, 29, by decide, rfl⟩
  obtain ⟨other, otherRead⟩ := (numbers 20240301).1.mpr ⟨2024, 3, 1, by decide, rfl⟩
  have packed := ((numbers 20240229).2 date).2 read
  have otherPacked := ((numbers 20240301).2 other).2 otherRead
  refine ⟨date, other, read, packed, otherRead, (ordered date other).mp ?_⟩
  rw [packed, otherPacked]
  decide

end BlockReader

end TickWire
