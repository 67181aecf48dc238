import TickWire.Bytes.LittleEndian

/-!
# Hexadecimal text of bytes

Two lowercase digits per byte, most significant digit first.
-/

namespace TickWire.Hex

/-- The lowercase hexadecimal digit of a number below sixteen. -/
def lowerDigit (value : Nat) : Char :=
  if value < 10 then Char.ofNat (48 + value) else Char.ofNat (87 + value)

/-- The uppercase hexadecimal digit of a number below sixteen. -/
def upperDigit (value : Nat) : Char :=
  if value < 10 then Char.ofNat (48 + value) else Char.ofNat (55 + value)

/-- The value of a hexadecimal digit of either case. -/
def digitValue? (digit : Char) : Option Nat :=
  let code := digit.toNat
  if 48 ≤ code ∧ code ≤ 57 then some (code - 48)
  else if 97 ≤ code ∧ code ≤ 102 then some (code - 87)
  else if 65 ≤ code ∧ code ≤ 70 then some (code - 55)
  else none

/-- The two lowercase digits of a byte. -/
def ofByte (byte : UInt8) : List Char :=
  [lowerDigit (byte.toNat / 16), lowerDigit (byte.toNat % 16)]

/-- The lowercase digits of a stretch of bytes. -/
def encode (bytes : Bytes) : List Char := bytes.flatMap ofByte

/-- Reads pairs of digits back; an odd digit or another character is refused. -/
def decode? : List Char → Option Bytes
  | [] => some []
  | [_] => none
  | high :: low :: rest => do
      let high ← digitValue? high
      let low ← digitValue? low
      let bytes ← decode? rest
      return UInt8.ofNat (16 * high + low) :: bytes

/-- A byte as it is quoted in error texts: `0x` and two uppercase digits. -/
def quotedByte (byte : UInt8) : String :=
  String.ofList ['0', 'x', upperDigit (byte.toNat / 16), upperDigit (byte.toNat % 16)]

theorem lowerDigit_mem : ∀ value < 16, lowerDigit value ∈ "0123456789abcdef".toList := by
  decide

/-- The encoding of bytes holds nothing but digits. -/
theorem mem_lowerDigits_of_mem_encode {bytes : Bytes} {char : Char}
    (member : char ∈ encode bytes) : char ∈ "0123456789abcdef".toList := by
  obtain ⟨byte, -, inByte⟩ := List.mem_flatMap.mp member
  have small := byte.toNat_lt
  simp only [ofByte, List.mem_cons, List.not_mem_nil, or_false] at inByte
  rcases inByte with rfl | rfl
  · exact lowerDigit_mem _ (by omega)
  · exact lowerDigit_mem _ (by omega)

@[simp] theorem length_encode (bytes : Bytes) : (encode bytes).length = 2 * bytes.length := by
  induction bytes with
  | nil => rfl
  | cons byte rest ih =>
      rw [encode, List.flatMap_cons, List.length_append, ← encode, ih]
      simp only [ofByte, List.length_cons, List.length_nil]
      omega

theorem digitValue?_lowerDigit : ∀ value < 16, digitValue? (lowerDigit value) = some value := by
  decide

/-- Digits are read back as the bytes that they encode. -/
theorem decode?_encode (bytes : Bytes) : decode? (encode bytes) = some bytes := by
  induction bytes with
  | nil => rfl
  | cons byte rest ih =>
      have small := byte.toNat_lt
      have whole : 16 * (byte.toNat / 16) + byte.toNat % 16 = byte.toNat := by omega
      change decode? (lowerDigit (byte.toNat / 16) :: lowerDigit (byte.toNat % 16) ::
        encode rest) = _
      rw [decode?, digitValue?_lowerDigit _ (by omega), digitValue?_lowerDigit _ (by omega), ih]
      change some (UInt8.ofNat (16 * (byte.toNat / 16) + byte.toNat % 16) :: rest) = _
      rw [whole, UInt8.ofNat_toNat]

end TickWire.Hex
