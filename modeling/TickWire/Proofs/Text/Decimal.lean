import Mathlib.Algebra.Group.Nat.Defs
import Mathlib.Tactic.Tauto
import TickWire.Text.Decimal

/-!
# Numbers of a fixed number of digits

With leading zeros, numbers are ordered as text as they are by value, and so are texts that
begin with them.  Such a number is read off the front of a text without a mark after it.
-/

namespace TickWire

/-- Texts that begin with equally many characters are ordered by these first. -/
theorem append_lt_append_iff {front otherFront back otherBack : List Char}
    (lengths : front.length = otherFront.length) :
    front ++ back < otherFront ++ otherBack ↔
      front < otherFront ∨ front = otherFront ∧ back < otherBack := by
  induction front generalizing otherFront with
  | nil =>
      rw [List.length_nil, eq_comm, List.length_eq_zero_iff] at lengths
      subst lengths
      simp
  | cons char front ih =>
      cases otherFront with
      | nil => cases lengths
      | cons otherChar otherFront =>
          simp only [List.cons_append, List.cons_lt_cons_iff, ih (Nat.succ.inj lengths),
            List.cons.injEq]
          tauto

namespace Decimal

/-! ## The first of some digits -/

theorem ofDigitChars_lt {digits : List Char} (areDigits : ∀ char ∈ digits, char.isDigit = true) :
    Nat.ofDigitChars 10 digits 0 < 10 ^ digits.length := by
  induction digits with
  | nil => exact Nat.one_pos
  | cons char rest ih =>
      rw [List.forall_mem_cons] at areDigits
      have rest_lt := ih areDigits.2
      have bounds : char.toNat ≤ '9'.toNat := (Char.isDigit_iff_toNat.mp areDigits.1).2
      have digit_le : char.toNat - '0'.toNat ≤ 9 := Nat.sub_le_sub_right bounds 48
      rw [Nat.ofDigitChars_cons, Nat.ofDigitChars_eq_ofDigitChars_zero, Nat.mul_zero,
        Nat.zero_add, List.length_cons, Nat.pow_succ]
      have front := Nat.mul_le_mul_left (10 ^ rest.length) digit_le
      omega

/-- The first digits have the value of all without the last ones. -/
theorem ofDigitChars_take {digits : List Char}
    (areDigits : ∀ char ∈ digits, char.isDigit = true) (count : Nat) :
    Nat.ofDigitChars 10 (digits.take count) 0 =
      Nat.ofDigitChars 10 digits 0 / 10 ^ (digits.length - count) := by
  have last : Nat.ofDigitChars 10 (digits.drop count) 0 < 10 ^ (digits.drop count).length :=
    ofDigitChars_lt fun char member => areDigits char (List.mem_of_mem_drop member)
  have whole : Nat.ofDigitChars 10 digits 0 =
      10 ^ (digits.drop count).length * Nat.ofDigitChars 10 (digits.take count) 0
        + Nat.ofDigitChars 10 (digits.drop count) 0 := by
    rw [← Nat.ofDigitChars_eq_ofDigitChars_zero, ← Nat.ofDigitChars_append,
      List.take_append_drop]
  rw [← List.length_drop, whole, Nat.mul_add_div (Nat.pow_pos (by decide)),
    Nat.div_eq_of_lt last, Nat.add_zero]

/-! ## A fixed number of digits -/

theorem toNat_digit {value : Nat} (small : value < 10) : (digit value).toNat = 48 + value := by
  have valid : (48 + value).isValidChar := .inl (by omega)
  rw [digit, Char.ofNat, dif_pos valid]
  rfl

theorem isDigit_digit {value : Nat} (small : value < 10) : (digit value).isDigit = true := by
  rw [Char.isDigit_iff_toNat, toNat_digit small]
  exact ⟨Nat.le_add_right 48 value, Nat.add_le_add_left (Nat.le_of_lt_succ small) 48⟩

theorem isDigit_of_mem_fixed {width number : Nat} {char : Char}
    (member : char ∈ fixed width number) : char.isDigit = true := by
  induction width generalizing number with
  | zero => cases member
  | succ width ih =>
      rw [fixed, List.mem_append, List.mem_singleton] at member
      obtain before | rfl := member
      · exact ih before
      · exact isDigit_digit (Nat.mod_lt number (by decide))

/-- The last digits of a number have the value of what the number leaves over. -/
theorem ofDigitChars_fixed (width number : Nat) :
    Nat.ofDigitChars 10 (fixed width number) 0 = number % 10 ^ width := by
  induction width generalizing number with
  | zero => exact (Nat.mod_one number).symm
  | succ width ih =>
      have code := toNat_digit (Nat.mod_lt number (by decide : 10 > 0))
      rw [fixed, Nat.ofDigitChars_append, ih, Nat.ofDigitChars_cons, Nat.ofDigitChars_nil, code,
        Nat.pow_succ, Nat.mul_comm (10 ^ width), Nat.mod_mul]
      have zero : '0'.toNat = 48 := rfl
      omega

/-- A number that has no more digits is read back. -/
theorem digits?_fixed {width number : Nat} (positive : 0 < width) (fits : number < 10 ^ width) :
    digits? (fixed width number) = some number := by
  refine digits?_eq_some_iff.mpr ⟨?_, fun _ => isDigit_of_mem_fixed, ?_⟩
  · rwa [← List.length_pos_iff, length_fixed]
  · rw [ofDigitChars_fixed, Nat.mod_eq_of_lt fits]

theorem digit_lt_iff {one other : Nat} (small : one < 10) (otherSmall : other < 10) :
    digit one < digit other ↔ one < other := by
  change (digit one).toNat < (digit other).toNat ↔ _
  rw [toNat_digit small, toNat_digit otherSmall]
  exact Nat.add_lt_add_iff_left

theorem fixed_inj {width one other : Nat} (fits : one < 10 ^ width)
    (otherFits : other < 10 ^ width) : fixed width one = fixed width other ↔ one = other := by
  refine ⟨fun same => ?_, fun same => same ▸ rfl⟩
  have value := congrArg (Nat.ofDigitChars 10 · 0) same
  simpa only [ofDigitChars_fixed, Nat.mod_eq_of_lt fits, Nat.mod_eq_of_lt otherFits] using value

/-- Numbers of a fixed number of digits are ordered as their digits are. -/
theorem fixed_lt_iff {width one other : Nat} (fits : one < 10 ^ width)
    (otherFits : other < 10 ^ width) : fixed width one < fixed width other ↔ one < other := by
  induction width generalizing one other with
  | zero =>
      rw [Nat.pow_zero, Nat.lt_one_iff] at fits otherFits
      subst fits otherFits
      simp
  | succ width ih =>
      rw [Nat.pow_succ] at fits otherFits
      have front : one / 10 < 10 ^ width := Nat.div_lt_of_lt_mul (by rwa [Nat.mul_comm])
      have otherFront : other / 10 < 10 ^ width := Nat.div_lt_of_lt_mul (by rwa [Nat.mul_comm])
      rw [fixed, fixed, append_lt_append_iff (by simp), ih front otherFront,
        fixed_inj front otherFront, List.cons_lt_cons_iff,
        digit_lt_iff (Nat.mod_lt one (by decide)) (Nat.mod_lt other (by decide))]
      simp only [List.not_lt_nil, and_false, or_false]
      omega

theorem fixed_append_lt_iff {width one other : Nat} {back otherBack : List Char}
    (fits : one < 10 ^ width) (otherFits : other < 10 ^ width) :
    fixed width one ++ back < fixed width other ++ otherBack ↔
      one < other ∨ one = other ∧ back < otherBack := by
  rw [append_lt_append_iff (by simp), fixed_lt_iff fits otherFits, fixed_inj fits otherFits]

/-! ## Reading off the front -/

/-- Reads so many digits off the front of a text. -/
def takeFixed? (width : Nat) (text : List Char) : Option (Nat × List Char) :=
  if width ≤ text.length then
    (digits? (text.take width)).map fun number => (number, text.drop width)
  else none

theorem takeFixed?_fixed {width number : Nat} (positive : 0 < width)
    (fits : number < 10 ^ width) (rest : List Char) :
    takeFixed? width (fixed width number ++ rest) = some (number, rest) := by
  have length := length_fixed width number
  rw [takeFixed?, if_pos (by simp), List.take_left' length, List.drop_left' length,
    digits?_fixed positive fits, Option.map_some]

end Decimal

end TickWire
