import TickWire.Bytes.LittleEndian

/-!
# Buffers

A row of bytes in memory with two cursors.  Bytes are received at the second cursor and
consumed at the first; between them lie the bytes that are unread.  The memory never
grows: what does not fit is not received.  `ByteBuffer.compact` moves the unread bytes to
the front and so makes room; the bytes behind them stay as they were.
-/

namespace TickWire

/-- The sizes of buffers are multiples of this many bytes. -/
def wordSize : Nat := 8

/-- Bytes in memory, some of them unread. -/
structure ByteBuffer where
  /-- The number of bytes that the buffer can hold. -/
  capacity : Nat
  memory : Bytes
  /-- The offset of the first unread byte. -/
  consumed : Nat := 0
  /-- The offset after the last unread byte. -/
  valid : Nat := 0
  length_memory : memory.length = capacity
  consumed_le_valid : consumed ≤ valid := by omega
  valid_le_capacity : valid ≤ capacity := by omega

namespace ByteBuffer

/-- A buffer of at least so many zero bytes, none of them received. -/
def ofCapacity (wanted : Nat) : ByteBuffer where
  capacity := (wanted + (wordSize - 1)) / wordSize * wordSize
  memory := List.replicate ((wanted + (wordSize - 1)) / wordSize * wordSize) 0
  length_memory := List.length_replicate

/-- The bytes that were received and not consumed. -/
def unread (buffer : ByteBuffer) : Bytes :=
  (buffer.memory.take buffer.valid).drop buffer.consumed

def unreadLength (buffer : ByteBuffer) : Nat := buffer.valid - buffer.consumed

/-- The number of bytes that can still be received. -/
def spareLength (buffer : ByteBuffer) : Nat := buffer.capacity - buffer.valid

/-- Puts bytes into the spare room, as many as fit, without receiving them. -/
def fill (buffer : ByteBuffer) (bytes : Bytes) : ByteBuffer where
  capacity := buffer.capacity
  memory := buffer.memory.take buffer.valid ++ bytes.take buffer.spareLength
    ++ buffer.memory.drop (buffer.valid + (bytes.take buffer.spareLength).length)
  consumed := buffer.consumed
  valid := buffer.valid
  length_memory := by
    have := buffer.valid_le_capacity
    simp only [List.length_append, List.length_take, List.length_drop,
      buffer.length_memory, spareLength]
    omega
  consumed_le_valid := buffer.consumed_le_valid
  valid_le_capacity := buffer.valid_le_capacity

/-- Receives the first `count` bytes of the spare room, or all of it, and says how
many. -/
def commit (buffer : ByteBuffer) (count : Nat) : Nat × ByteBuffer :=
  (min count buffer.spareLength, { buffer with
    valid := buffer.valid + min count buffer.spareLength
    consumed_le_valid := by
      have := buffer.consumed_le_valid
      omega
    valid_le_capacity := by
      have := buffer.valid_le_capacity
      simp only [spareLength]
      omega })

/-- Consumes the first `count` unread bytes, or all of them, and says how many. -/
def advance (buffer : ByteBuffer) (count : Nat) : Nat × ByteBuffer :=
  (min count buffer.unreadLength, { buffer with
    consumed := buffer.consumed + min count buffer.unreadLength
    consumed_le_valid := by
      have := buffer.consumed_le_valid
      simp only [unreadLength]
      omega })

/-- Consumes the first `count` unread bytes, or all of them, and gives them. -/
def take (buffer : ByteBuffer) (count : Nat) : Bytes × ByteBuffer :=
  (buffer.unread.take count, (buffer.advance count).2)

theorem length_unread (buffer : ByteBuffer) :
    buffer.unread.length = buffer.unreadLength := by
  have := buffer.valid_le_capacity
  simp only [unread, unreadLength, List.length_drop, List.length_take, buffer.length_memory]
  omega

/-- Moves the unread bytes to the front. -/
def compact (buffer : ByteBuffer) : ByteBuffer :=
  if buffer.consumed = 0 then buffer
  else {
    capacity := buffer.capacity
    memory := buffer.unread ++ buffer.memory.drop buffer.unreadLength
    consumed := 0
    valid := buffer.unreadLength
    length_memory := by
      have := buffer.valid_le_capacity
      rw [List.length_append, length_unread, List.length_drop, buffer.length_memory,
        unreadLength]
      omega
    consumed_le_valid := Nat.zero_le _
    valid_le_capacity := Nat.le_trans (Nat.sub_le _ _) buffer.valid_le_capacity }

/-- Forgets all bytes that were received. -/
def clear (buffer : ByteBuffer) : ByteBuffer where
  capacity := buffer.capacity
  memory := buffer.memory
  length_memory := buffer.length_memory

end ByteBuffer

end TickWire
