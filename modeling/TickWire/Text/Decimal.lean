/-!
# Decimal text of natural numbers

Numbers in a fixed number of digits, numbers in as few digits as they need, and the
reading of an unsigned number below a limit.
-/

namespace TickWire.Decimal

/-- The character of a digit below ten. -/
def digit (value : Nat) : Char := Char.ofNat (48 + value)

/-- The value of a decimal digit. -/
def digitValue? (char : Char) : Option Nat :=
  if 48 ≤ char.toNat ∧ char.toNat ≤ 57 then some (char.toNat - 48) else none

/-- The last `width` digits of a number, with leading zeros. -/
def fixed : (width number : Nat) → List Char
  | 0, _ => []
  | width + 1, number => fixed width (number / 10) ++ [digit (number % 10)]

@[simp] theorem length_fixed (width number : Nat) : (fixed width number).length = width := by
  induction width generalizing number with
  | zero => rfl
  | succ width ih => simp [fixed, ih]

/-- All digits of a number. -/
def natural (number : Nat) : List Char := (toString number).toList

/-- All digits of a number, and leading zeros up to `width` digits. -/
def padded (width number : Nat) : List Char :=
  let digits := natural number
  List.replicate (width - digits.length) '0' ++ digits

/-- An integer with its sign. -/
def signed (number : Int) : List Char :=
  if number < 0 then '-' :: natural number.natAbs else natural number.natAbs

/-- Reads digits on from `value`; anything else is refused. -/
def digitsFrom? : (value : Nat) → List Char → Option Nat
  | value, [] => some value
  | value, char :: rest =>
      match digitValue? char with
      | some next => digitsFrom? (10 * value + next) rest
      | none => none

/-- Reads at least one digit and nothing else. -/
def digits? : List Char → Option Nat
  | [] => none
  | chars => digitsFrom? 0 chars

/-- Reads an unsigned number below `limit`: digits, after at most one plus sign. -/
def parse? (limit : Nat) (text : String) : Option Nat :=
  let digits := match text.toList with
    | '+' :: rest => rest
    | chars => chars
  (digits? digits).filter (· < limit)

/-- Reads a 64-bit unsigned number. -/
def parseU64? (text : String) : Option UInt64 :=
  (parse? UInt64.size text).map UInt64.ofNat

/-- Reads a 16-bit unsigned number. -/
def parseU16? (text : String) : Option UInt16 :=
  (parse? UInt16.size text).map UInt16.ofNat

/-! ## Reading what was written -/

/-- The characters that are read as digits are the digits. -/
theorem digitValue?_of_isDigit {char : Char} (isDigit : char.isDigit = true) :
    digitValue? char = some (char.toNat - '0'.toNat) :=
  if_pos (Char.isDigit_iff_toNat.mp isDigit)

theorem digitsFrom?_eq_some {chars : List Char} (areDigits : ∀ char ∈ chars, char.isDigit = true)
    (value : Nat) : digitsFrom? value chars = some (Nat.ofDigitChars 10 chars value) := by
  induction chars generalizing value with
  | nil => rfl
  | cons char rest ih =>
      rw [List.forall_mem_cons] at areDigits
      rw [digitsFrom?, digitValue?_of_isDigit areDigits.1]
      exact ih areDigits.2 _

theorem natural_eq_toDigits (number : Nat) : natural number = Nat.toDigits 10 number :=
  Nat.toList_repr

theorem isDigit_of_mem_natural {number : Nat} {char : Char} (member : char ∈ natural number) :
    char.isDigit = true := by
  rw [natural_eq_toDigits] at member
  exact Nat.isDigit_of_mem_toDigits (by decide) (by decide) member

/-- The digits of a number are read as the number. -/
theorem digits?_natural (number : Nat) : digits? (natural number) = some number := by
  have value : digitsFrom? 0 (natural number) = some number := by
    rw [digitsFrom?_eq_some fun _ => isDigit_of_mem_natural, natural_eq_toDigits,
      Nat.ofDigitChars_ten_toDigits]
  have nonempty : natural number ≠ [] := by
    rw [natural_eq_toDigits]
    exact Nat.toDigits_ne_nil
  obtain ⟨char, rest, digits⟩ := List.exists_cons_of_ne_nil nonempty
  rw [digits] at value ⊢
  exact value

theorem parse?_toString {limit number : Nat} (small : number < limit) :
    parse? limit (toString number) = some number := by
  -- The digits do not begin with a sign.
  have unsigned : ∀ rest, (toString number).toList ≠ '+' :: rest := by
    intro rest signed
    have member : '+' ∈ natural number := by
      rw [natural, signed]
      exact List.mem_cons_self
    exact absurd (isDigit_of_mem_natural member) (by decide)
  have whole : digits? (toString number).toList = some number := digits?_natural number
  unfold parse?
  split
  next rest signed => exact absurd signed (unsigned rest)
  next =>
    change (digits? (toString number).toList).filter _ = _
    rw [whole, Option.filter_some, if_pos (decide_eq_true small)]

/-- A 64-bit number is read back from its digits. -/
theorem parseU64?_toString (number : UInt64) :
    parseU64? (toString number.toNat) = some number := by
  rw [parseU64?, parse?_toString number.toNat_lt_size, Option.map_some, UInt64.ofNat_toNat]

/-! ## Text that is read -/

/-- A number is spelled by its digits, after at most one plus sign. -/
def Spells (text : List Char) (number : Nat) : Prop :=
  ∃ digits, (text = digits ∨ text = '+' :: digits) ∧ digits ≠ [] ∧
    (∀ char ∈ digits, char.isDigit = true) ∧ Nat.ofDigitChars 10 digits 0 = number

theorem isDigit_of_digitValue? {char : Char} {value : Nat}
    (read : digitValue? char = some value) : char.isDigit = true := by
  unfold digitValue? at read
  split at read
  next within => exact Char.isDigit_iff_toNat.mpr within
  next => cases read

theorem isDigit_of_digitsFrom? {chars : List Char} {value number : Nat}
    (read : digitsFrom? value chars = some number) : ∀ char ∈ chars, char.isDigit = true := by
  induction chars generalizing value with
  | nil => exact List.forall_mem_nil _
  | cons char rest ih =>
      rw [digitsFrom?] at read
      split at read
      next next isValue =>
        exact List.forall_mem_cons.mpr ⟨isDigit_of_digitValue? isValue, ih read⟩
      next => cases read

/-- At least one character is read, and only if all of them are digits. -/
theorem digits?_eq_some_iff {chars : List Char} {number : Nat} :
    digits? chars = some number ↔ chars ≠ [] ∧ (∀ char ∈ chars, char.isDigit = true) ∧
      Nat.ofDigitChars 10 chars 0 = number := by
  cases chars with
  | nil => simp [digits?]
  | cons char rest =>
      change digitsFrom? 0 (char :: rest) = some number ↔ _
      constructor
      · intro read
        have areDigits := isDigit_of_digitsFrom? read
        rw [digitsFrom?_eq_some areDigits] at read
        exact ⟨List.cons_ne_nil _ _, areDigits, Option.some.inj read⟩
      · rintro ⟨-, areDigits, value⟩
        rw [digitsFrom?_eq_some areDigits, value]

theorem parse?_eq_some_iff {limit number : Nat} {text : String} :
    parse? limit text = some number ↔ Spells text.toList number ∧ number < limit := by
  rw [parse?, Option.filter_eq_some_iff, decide_eq_true_iff]
  apply and_congr_left'
  split
  next rest signed =>
    rw [digits?_eq_some_iff, Spells, signed]
    constructor
    · intro spelled
      exact ⟨rest, .inr rfl, spelled⟩
    · rintro ⟨digits, rfl | same, nonempty, areDigits, value⟩
      -- A sign is no digit.
      · exact absurd (areDigits '+' List.mem_cons_self) (by decide)
      · cases same
        exact ⟨nonempty, areDigits, value⟩
  next unsigned =>
    rw [digits?_eq_some_iff, Spells]
    constructor
    · intro spelled
      exact ⟨_, .inl rfl, spelled⟩
    · rintro ⟨digits, rfl | signed, spelled⟩
      · exact spelled
      · exact absurd signed (unsigned digits)

/-- A 64-bit number is read exactly from what spells it. -/
theorem parseU64?_eq_some_iff {text : String} {number : UInt64} :
    parseU64? text = some number ↔ Spells text.toList number.toNat := by
  rw [parseU64?, Option.map_eq_some_iff]
  constructor
  · rintro ⟨value, read, rfl⟩
    obtain ⟨spelled, small⟩ := parse?_eq_some_iff.mp read
    rwa [UInt64.toNat_ofNat_of_lt' small]
  · intro spelled
    exact ⟨number.toNat, parse?_eq_some_iff.mpr ⟨spelled, number.toNat_lt_size⟩,
      UInt64.ofNat_toNat⟩

end TickWire.Decimal
