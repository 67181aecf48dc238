import Mathlib.Algebra.Group.Int.Defs
import TickWire.Price
import TickWire.Proofs.Text.Decimal
import TickWire.Text.Segment

/-!
# Prices as text

A price is written as a sign, the digits of its whole part and the first places of the nine
of its fraction, brought to a width.  Reading what is written gives the price again, but for
the places that were cut, and so every price has a text of its own.
-/

namespace TickWire

/-! ## The pieces of a text -/

/-- How fill is divided into what stands on the left and on the right of a text. -/
def Alignment.Divides : Alignment → (before after : Nat) → Prop
  | left, before, _ => before = 0
  | center, before, after => before ≤ after ∧ after ≤ before + 1
  | right, _, after => after = 0

/-- A number with a point in the pieces that it is written in. -/
structure NumberPieces where
  /-- How many fill characters stand on the left. -/
  before : Nat
  sign : List Char
  /-- How many zeros stand between the sign and the digits. -/
  zeros : Nat
  whole : List Char
  /-- The digits after the point, which is left out where there are none. -/
  places : List Char
  /-- How many fill characters stand on the right. -/
  after : Nat

namespace NumberPieces

variable (pieces : NumberPieces)

def digits : List Char :=
  if pieces.places = [] then pieces.whole else pieces.whole ++ '.' :: pieces.places

/-- What stands between the fill. -/
def number : List Char := pieces.sign ++ (List.replicate pieces.zeros '0' ++ pieces.digits)

def text (fill : Char) : List Char :=
  List.replicate pieces.before fill ++ (pieces.number ++ List.replicate pieces.after fill)

theorem length_text (fill : Char) : (pieces.text fill).length =
    pieces.sign.length + pieces.digits.length + (pieces.before + pieces.zeros + pieces.after) := by
  simp only [text, number, List.length_append, List.length_replicate]
  omega

/-- Whether a number is brought to a width as a format says: by zeros, or else by fill on the
other side of where it stands. -/
structure IsAligned (layout : Format) : Prop where
  length_eq : (pieces.text layout.fill).length =
    max layout.width (pieces.sign.length + pieces.digits.length)
  inside : layout.zero = true → pieces.before = 0 ∧ pieces.after = 0
  outside : layout.zero = false → pieces.zeros = 0 ∧
    (layout.align?.getD .right).Divides pieces.before pieces.after

/-- A number that is as long as the width is not filled. -/
theorem IsAligned.text_eq {pieces : NumberPieces} {layout : Format}
    (aligned : pieces.IsAligned layout)
    (fits : layout.width ≤ pieces.sign.length + pieces.digits.length) :
    pieces.text layout.fill = pieces.number := by
  have length := aligned.length_eq
  rw [length_text, Nat.max_eq_right fits] at length
  have before : pieces.before = 0 := by omega
  have after : pieces.after = 0 := by omega
  simp [text, before, after]

end NumberPieces

namespace Padded

theorem exists_around (fill : Char) (align : Alignment) (missing : Nat) (text : List Char) :
    ∃ before after, before + after = missing ∧ align.Divides before after ∧
      around fill align missing text =
        List.replicate before fill ++ (text ++ List.replicate after fill) := by
  cases align with
  | left => exact ⟨0, missing, Nat.zero_add _, rfl, rfl⟩
  | right => exact ⟨missing, 0, rfl, rfl, by simp [around]⟩
  | center =>
      refine ⟨missing / 2, missing - missing / 2, by omega, ⟨by omega, by omega⟩, ?_⟩
      rw [around, List.append_assoc]

/-- A number is brought to a width between its sign and its digits or around them. -/
theorem exists_pieces (layout : Format) (negative : Bool) (whole places : List Char) :
    ∃ pieces : NumberPieces, pieces.sign = sign layout negative ∧
      pieces.whole = whole ∧ pieces.places = places ∧ pieces.IsAligned layout ∧
      number layout negative pieces.digits = pieces.text layout.fill := by
  let bare : NumberPieces := ⟨0, sign layout negative, 0, whole, places, 0⟩
  let missing := layout.width - (bare.sign.length + bare.digits.length)
  have width : bare.sign.length + bare.digits.length + missing =
      max layout.width (bare.sign.length + bare.digits.length) := by omega
  cases zero : layout.zero with
  | true =>
      refine ⟨{ bare with zeros := missing }, rfl, rfl, rfl, ⟨?_, fun _ => ⟨rfl, rfl⟩, ?_⟩, ?_⟩
      · rw [NumberPieces.length_text]
        exact (congrArg _ (Nat.zero_add missing)).trans width
      · rw [zero]
        nofun
      · simp [number, zero, NumberPieces.text, NumberPieces.number, bare, missing,
          NumberPieces.digits]
  | false =>
      obtain ⟨before, after, total, divides, around_eq⟩ :=
        exists_around layout.fill (layout.align?.getD .right) missing (bare.sign ++ bare.digits)
      refine ⟨{ bare with before, after }, rfl, rfl, rfl, ⟨?_, ?_, fun _ => ⟨rfl, divides⟩⟩, ?_⟩
      · rw [NumberPieces.length_text]
        exact (congrArg _ total).trans width
      · rw [zero]
        nofun
      · rw [number, zero]
        exact around_eq

end Padded

namespace FixedPrice

/-- Whether pieces are those of a price in a format. -/
structure IsWrittenAs (layout : Format) (price : FixedPrice) (pieces : NumberPieces) : Prop where
  sign_eq : pieces.sign =
    if price.units.toInt < 0 then ['-'] else if layout.plus then ['+'] else []
  whole_eq : pieces.whole = Nat.toDigits 10 (price.units.toInt.natAbs / 1000000000)
  places_eq : ∃ nine : List Char, nine.length = 9 ∧ (∀ digit ∈ nine, digit.isDigit = true) ∧
    Nat.ofDigitChars 10 nine 0 = price.units.toInt.natAbs % 1000000000 ∧
    pieces.places = nine.take (places layout.precision?)
  isAligned : pieces.IsAligned layout

theorem places_le (precision? : Option Nat) : places precision? ≤ 9 := by
  cases precision? with
  | none => exact Nat.le_refl 9
  | some precision => exact Nat.min_le_right precision 9

/-- A price that is defined is written in its pieces. -/
theorem exists_format (layout : Format) {price : FixedPrice} (isDefined : price ≠ undefined) :
    ∃ pieces, price.format layout = String.ofList (pieces.text layout.fill) ∧
      price.IsWrittenAs layout pieces := by
  obtain ⟨pieces, sign, whole, places, aligned, text⟩ :=
    Padded.exists_pieces layout (decide (price.units.toInt < 0))
      (Decimal.natural (price.units.toInt.natAbs / scale))
      ((Decimal.fixed 9 (price.units.toInt.natAbs % scale)).take (places layout.precision?))
  have digits : pieces.digits = magnitudeText layout.precision? price.units.toInt.natAbs := by
    rw [NumberPieces.digits, magnitudeText, whole, places]
    simp [← List.length_eq_zero_iff]
  refine ⟨pieces, ?_, ⟨?_, ?_, ⟨_, Decimal.length_fixed 9 _, fun _ => Decimal.isDigit_of_mem_fixed,
    ?_, places⟩, aligned⟩⟩
  · rw [format, isUndefined, decide_eq_false isDefined, ← text, digits]
    rfl
  · simpa [Padded.sign] using sign
  · rw [whole, Decimal.natural_eq_toDigits]
    rfl
  · rw [Decimal.ofDigitChars_fixed]
    exact Nat.mod_mod _ _

/-! ## Reading a price -/

/-- The billionths that digits count, of which at most nine may follow a point. -/
def readMagnitude? (digits : List Char) : Option Nat :=
  match Segment.splitFirst? '.' digits with
  | none => (Decimal.digits? digits).map (· * 1000000000)
  | some (whole, places) => do
      let whole ← Decimal.digits? whole
      let count ← Decimal.digits? places
      if places.length ≤ 9 then some (whole * 1000000000 + count * 10 ^ (9 - places.length))
      else none

/-- The billionths that digits count after at most one sign. -/
def read? (text : List Char) : Option Int :=
  match text with
  | '-' :: digits => (readMagnitude? digits).map fun magnitude : Nat => -(magnitude : Int)
  | '+' :: digits => (readMagnitude? digits).map Int.ofNat
  | digits => (readMagnitude? digits).map Int.ofNat

theorem read?_of_isDigit {text : List Char} {first : Char} (begins : text.head? = some first)
    (isDigit : first.isDigit = true) : read? text = (readMagnitude? text).map Int.ofNat := by
  unfold read?
  split
  next => cases begins; cases isDigit
  next => cases begins; cases isDigit
  next => rfl

theorem notMem_of_digits? {digits : List Char} {number : Nat}
    (read : Decimal.digits? digits = some number) : '.' ∉ digits :=
  fun member => absurd ((Decimal.digits?_eq_some_iff.mp read).2.1 '.' member) (by decide)

theorem readMagnitude?_of_whole {whole : List Char} {number : Nat}
    (read : Decimal.digits? whole = some number) :
    readMagnitude? whole = some (number * 1000000000) := by
  have undivided : Segment.splitFirst? '.' whole = none := by
    refine Option.eq_none_iff_forall_ne_some.mpr fun parts divided => ?_
    exact notMem_of_digits? read (Segment.exists_splitFirst?_iff.mp ⟨parts, divided⟩)
  rw [readMagnitude?, undivided, read]
  rfl

theorem readMagnitude?_of_places {whole places : List Char} {number count : Nat}
    (read : Decimal.digits? whole = some number) (readPlaces : Decimal.digits? places = some count)
    (few : places.length ≤ 9) :
    readMagnitude? (whole ++ '.' :: places) =
      some (number * 1000000000 + count * 10 ^ (9 - places.length)) := by
  have divided := Segment.splitFirst?_eq_some_iff.mpr
    (⟨rfl, notMem_of_digits? read⟩ : whole ++ '.' :: places = _ ∧ _)
  simp only [readMagnitude?, divided, read, readPlaces, Option.bind_eq_bind, Option.bind_some,
    if_pos few]

/-- What is left of a magnitude without its last places. -/
theorem cut_magnitude (magnitude : Nat) {shown : Nat} (few : shown ≤ 9) :
    magnitude / 1000000000 * 1000000000
        + magnitude % 1000000000 / 10 ^ (9 - shown) * 10 ^ (9 - shown) =
      magnitude / 10 ^ (9 - shown) * 10 ^ (9 - shown) := by
  have split : 1000000000 = 10 ^ (9 - shown) * 10 ^ shown := by
    rw [← Nat.pow_add, Nat.sub_add_cancel few]
  rw [split, Nat.mod_mul_right_div_self, ← Nat.div_div_eq_div_mul, Nat.mul_comm (10 ^ _) (10 ^ _),
    ← Nat.mul_assoc, ← Nat.add_mul, Nat.div_add_mod']

/-- Cutting toward zero cuts the magnitude. -/
theorem tdiv_mul_eq (value : Int) (cut : Nat) :
    value.tdiv (10 ^ cut) * 10 ^ cut =
      if value < 0 then -((value.natAbs / 10 ^ cut * 10 ^ cut : Nat) : Int)
      else (value.natAbs / 10 ^ cut * 10 ^ cut : Nat) := by
  have power : (10 : Int) ^ cut = (10 ^ cut : Nat) := (Int.natCast_pow 10 cut).symm
  rw [power, Int.natCast_mul]
  cases value with
  | ofNat magnitude =>
      rw [Int.ofNat_eq_natCast, if_neg (Int.not_lt.mpr (Int.natCast_nonneg magnitude))]
      rfl
  | negSucc magnitude =>
      rw [if_pos (Int.negSucc_lt_zero magnitude), ← Int.neg_mul]
      rfl

namespace IsWrittenAs

variable {layout : Format} {price : FixedPrice} {pieces : NumberPieces}

/-- Zeros before the digits do not count. -/
theorem digits?_whole (written : price.IsWrittenAs layout pieces) :
    Decimal.digits? (List.replicate pieces.zeros '0' ++ pieces.whole) =
      some (price.units.toInt.natAbs / 1000000000) := by
  rw [written.whole_eq, ← Decimal.natural_eq_toDigits]
  refine Decimal.digits?_eq_some_iff.mpr ⟨?_, ?_, ?_⟩
  · rw [Decimal.natural_eq_toDigits]
    exact List.append_ne_nil_of_right_ne_nil _ Nat.toDigits_ne_nil
  · intro char member
    obtain zero | digit := List.mem_append.mp member
    · rw [List.eq_of_mem_replicate zero]
      rfl
    · exact Decimal.isDigit_of_mem_natural digit
  · rw [Nat.ofDigitChars_append, Nat.ofDigitChars_replicate_zero, Nat.mul_zero,
      Decimal.natural_eq_toDigits, Nat.ofDigitChars_ten_toDigits]

theorem length_places (written : price.IsWrittenAs layout pieces) :
    pieces.places.length = places layout.precision? := by
  obtain ⟨nine, length, -, -, places_eq⟩ := written.places_eq
  rw [places_eq, List.length_take, length]
  exact Nat.min_eq_left (places_le _)

theorem readMagnitude?_digits (written : price.IsWrittenAs layout pieces) :
    readMagnitude? (List.replicate pieces.zeros '0' ++ pieces.digits) =
      some (price.units.toInt.natAbs / 10 ^ (9 - places layout.precision?)
        * 10 ^ (9 - places layout.precision?)) := by
  have few := places_le layout.precision?
  have length := written.length_places
  have whole := written.digits?_whole
  rw [← cut_magnitude _ few, NumberPieces.digits]
  split
  next none =>
    rw [none, List.length_nil] at length
    have nothing : price.units.toInt.natAbs % 1000000000 / 10 ^ (9 - 0) = 0 :=
      Nat.div_eq_of_lt (Nat.mod_lt _ (by decide))
    rw [← length, readMagnitude?_of_whole whole, nothing, Nat.zero_mul, Nat.add_zero]
  next some =>
    obtain ⟨nine, nineLong, areDigits, value, places_eq⟩ := written.places_eq
    have count : Decimal.digits? pieces.places = Option.some
        (price.units.toInt.natAbs % 1000000000 / 10 ^ (9 - places layout.precision?)) := by
      refine Decimal.digits?_eq_some_iff.mpr ⟨some, ?_, ?_⟩
      · rw [places_eq]
        exact fun digit member => areDigits digit (List.mem_of_mem_take member)
      · rw [places_eq, Decimal.ofDigitChars_take areDigits, value, nineLong]
    rw [← List.append_assoc, readMagnitude?_of_places whole count (by omega), length]

theorem exists_head?_digits (written : price.IsWrittenAs layout pieces) :
    ∃ first, (List.replicate pieces.zeros '0' ++ pieces.digits).head? = some first ∧
      first.isDigit = true := by
  obtain ⟨nonempty, areDigits, -⟩ := Decimal.digits?_eq_some_iff.mp written.digits?_whole
  obtain ⟨first, rest, whole⟩ := List.exists_cons_of_ne_nil nonempty
  refine ⟨first, ?_, areDigits first (whole ▸ List.mem_cons_self)⟩
  rw [NumberPieces.digits]
  split
  · rw [whole]
    rfl
  · rw [← List.append_assoc, whole]
    rfl

/-- A price is read from its number, cut toward zero after the places that are shown. -/
theorem read?_number (written : price.IsWrittenAs layout pieces) :
    read? pieces.number = some (price.units.toInt.tdiv (10 ^ (9 - places layout.precision?))
      * 10 ^ (9 - places layout.precision?)) := by
  have digits := written.readMagnitude?_digits
  rw [NumberPieces.number, written.sign_eq, tdiv_mul_eq]
  split
  next => rw [List.singleton_append, read?, digits, Option.map_some]
  next =>
    split
    next =>
      rw [List.singleton_append, read?, digits, Option.map_some]
      rfl
    next =>
      obtain ⟨first, begins, isDigit⟩ := written.exists_head?_digits
      rw [List.nil_append, read?_of_isDigit begins isDigit, digits, Option.map_some]
      rfl

end IsWrittenAs

/-- A price is read from its text. -/
theorem read?_text {price : FixedPrice} (isDefined : price ≠ undefined) :
    read? price.text.toList = some price.units.toInt := by
  obtain ⟨pieces, text_eq, written⟩ := exists_format {} isDefined
  rw [text, text_eq, String.toList_ofList, written.isAligned.text_eq (Nat.zero_le _),
    written.read?_number]
  simp [places]

theorem read?_text_undefined : read? undefined.text.toList = none := by decide

/-- No number is the text of the sentinel, so that the text tells the units even there. -/
theorem text_injective : Function.Injective text := by
  intro price other same
  have read : read? price.text.toList = read? other.text.toList := by rw [same]
  by_cases undefinedPrice : price = undefined <;> by_cases undefinedOther : other = undefined
  · rw [undefinedPrice, undefinedOther]
  · rw [undefinedPrice, read?_text_undefined, read?_text undefinedOther] at read
    cases read
  · rw [undefinedOther, read?_text_undefined, read?_text undefinedPrice] at read
    cases read
  · rw [read?_text undefinedPrice, read?_text undefinedOther] at read
    exact congrArg FixedPrice.mk (Int64.toInt_inj.mp (Option.some.inj read))

/-- A price that is defined is written as its sign, the digits of its whole part and, for a
precision of so many places but at most nine, the first of the nine digits of its fraction.
Zeros or fill bring it to the width.  Between the fill stands what is read as the price, cut
toward zero after the places, and without a format every price has a text of its own. -/
theorem format_exact :
    (∀ (layout : Format) (price : FixedPrice), price ≠ undefined →
      ∃ pieces, price.format layout = String.ofList (pieces.text layout.fill) ∧
        price.IsWrittenAs layout pieces ∧
        read? pieces.number = some (price.units.toInt.tdiv (10 ^ (9 - places layout.precision?))
          * 10 ^ (9 - places layout.precision?))) ∧
    (∀ price : FixedPrice, price ≠ undefined →
      read? price.text.toList = some price.units.toInt) ∧
    Function.Injective text := by
  refine ⟨fun layout price isDefined => ?_, fun _ => read?_text, text_injective⟩
  obtain ⟨pieces, text_eq, written⟩ := exists_format layout isDefined
  exact ⟨pieces, text_eq, written, written.read?_number⟩

/-- The least price of all, with two places and with all nine. -/
theorem format_exact_least :
    (∃ pieces : NumberPieces, (FixedPrice.mk Int64.minValue).format
        { width := 16, fill := '*', align? := some .center, precision? := some 2 } =
        String.ofList (pieces.text '*') ∧
      pieces.text '*' = "*-9223372036.85*".toList ∧
      read? pieces.number = some (-9223372036850000000)) ∧
    read? (FixedPrice.mk Int64.minValue).text.toList = some (-9223372036854775808) := by
  have isDefined : FixedPrice.mk Int64.minValue ≠ undefined := by decide
  obtain ⟨formats, texts, -⟩ := format_exact
  obtain ⟨pieces, text_eq, -, read⟩ := formats
    { width := 16, fill := '*', align? := some .center, precision? := some 2 } _ isDefined
  refine ⟨⟨pieces, text_eq, ?_, read⟩, texts _ isDefined⟩
  rw [← String.ofList_inj, ← text_eq]
  decide +kernel

end FixedPrice

end TickWire
