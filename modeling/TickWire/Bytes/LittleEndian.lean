/-!
# Little-endian words

Every number of the wire format is stored least significant byte first.  One
codec, indexed by the width in bytes, serves all of them: `LittleEndian.encode`
keeps a number modulo `LittleEndian.capacity width`, and `LittleEndian.decode` reads any number
of bytes back.  The machine integers are instances of this codec.
-/

namespace TickWire

/-- A stretch of bytes. -/
abbrev Bytes := List UInt8

namespace LittleEndian

/-- The `width` low-order bytes of a number, least significant first. -/
def encode : (width number : Nat) → Bytes
  | 0, _ => []
  | width + 1, number => UInt8.ofNat number :: encode width (number / 256)

/-- The number whose bytes are given least significant first. -/
def decode : Bytes → Nat
  | [] => 0
  | byte :: rest => byte.toNat + 256 * decode rest

/-- The number of numbers that fit `width` bytes. -/
def capacity (width : Nat) : Nat := Nat.pow 256 width

theorem capacity_succ (width : Nat) : capacity (width + 1) = 256 * capacity width :=
  Nat.mul_comm _ _

@[simp] theorem length_encode (width number : Nat) :
    (encode width number).length = width := by
  induction width generalizing number with
  | zero => rfl
  | succ width ih => simp [encode, ih]

/-- Reading back what was written gives the number modulo the capacity of the
field. -/
theorem decode_encode (width number : Nat) :
    decode (encode width number) = number % capacity width := by
  induction width generalizing number with
  | zero => exact (Nat.mod_one number).symm
  | succ width ih =>
      have low : (UInt8.ofNat number).toNat = number % 256 := by simp
      rw [encode, decode, ih, low, capacity_succ, Nat.mod_mul]

theorem decode_lt (bytes : Bytes) : decode bytes < capacity bytes.length := by
  induction bytes with
  | nil => exact Nat.one_pos
  | cons byte rest ih =>
      have bound := byte.toNat_lt
      simp only [decode, List.length_cons, capacity_succ]
      omega

/-- Writing back what was read gives the bytes again. -/
theorem encode_decode (bytes : Bytes) : encode bytes.length (decode bytes) = bytes := by
  induction bytes with
  | nil => rfl
  | cons byte rest ih =>
      have bound := byte.toNat_lt
      have low : UInt8.ofNat (byte.toNat + 256 * decode rest) = byte := by
        apply UInt8.toNat_inj.mp
        simp
      have high : (byte.toNat + 256 * decode rest) / 256 = decode rest := by omega
      simp only [List.length_cons, encode, decode]
      rw [low, high, ih]

end LittleEndian

end TickWire
