import TickWire.Time.Date

/-!
# Packed dates

The digits of a date, read as one number, are read back: month and day never take more
than two digits.
-/

namespace TickWire

namespace Calendar

theorem daysInMonth_le (year month : Nat) : daysInMonth year month ≤ 31 := by
  unfold daysInMonth
  split
  case h_12 => split <;> decide
  all_goals decide

theorem daysInMonth_of_beyond (year : Nat) {month : Nat} (beyond : month = 0 ∨ 12 < month) :
    daysInMonth year month = 0 := by
  unfold daysInMonth
  split <;> simp_all

namespace IsDate

variable {year month day : Nat}

theorem month_bounds (isDate : IsDate year month day) : 1 ≤ month ∧ month ≤ 12 := by
  obtain ⟨-, positive, within⟩ := isDate
  refine Decidable.byContradiction fun outside => ?_
  rw [daysInMonth_of_beyond year (by omega)] at within
  omega

theorem day_le (isDate : IsDate year month day) : day ≤ 31 :=
  Nat.le_trans isDate.2.2 (daysInMonth_le year month)

end IsDate

end Calendar

namespace Date

variable (date : Date)

theorem packed_lt : date.packed < 100000000 := by
  have year := date.isDate.1
  have month := date.isDate.month_bounds
  have day := date.isDate.day_le
  simp only [packed]
  omega

theorem month_of_packed : date.packed / 100 % 100 = date.month := by
  have month := date.isDate.month_bounds
  have day := date.isDate.day_le
  simp only [packed]
  omega

theorem ofPacked?_packed : ofPacked? date.packed = some date := by
  have month := date.isDate.month_bounds
  have day := date.isDate.day_le
  have year : date.packed / 10000 = date.year := by
    simp only [packed]
    omega
  have dayOfPacked : date.packed % 100 = date.day := by
    simp only [packed]
    omega
  rw [ofPacked?, year, date.month_of_packed, dayOfPacked, of?, dif_pos date.isDate]

end Date

end TickWire
