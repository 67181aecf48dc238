import TickWire.Buffer

/-!
# Buffers as queues

What the operations of a buffer do to the bytes that are unread and to the room behind
them.  Everything else about the memory is of no concern to those who use a buffer.
-/

namespace TickWire.ByteBuffer

variable (buffer : ByteBuffer)

theorem unreadLength_le_capacity : buffer.unreadLength ≤ buffer.capacity := by
  have := buffer.valid_le_capacity
  simp only [unreadLength]
  omega

@[simp] theorem unread_ofCapacity (wanted : Nat) : (ofCapacity wanted).unread = [] := by
  simp [unread, ofCapacity]

/-- A buffer has at least the capacity that is asked for. -/
theorem le_capacity_ofCapacity (wanted : Nat) : wanted ≤ (ofCapacity wanted).capacity := by
  simp only [ofCapacity, wordSize]
  omega

/-! ## Receiving -/

/-- The bytes that lie in the spare room. -/
def spare : Bytes := buffer.memory.drop buffer.valid

theorem length_take_valid : (buffer.memory.take buffer.valid).length = buffer.valid := by
  rw [List.length_take, buffer.length_memory, Nat.min_eq_left buffer.valid_le_capacity]

theorem length_spare : buffer.spare.length = buffer.spareLength := by
  rw [spare, List.length_drop, buffer.length_memory, spareLength]

theorem unread_fill (bytes : Bytes) : (buffer.fill bytes).unread = buffer.unread := by
  simp only [unread, fill, List.append_assoc, List.take_left' buffer.length_take_valid]

/-- What is put into the spare room lies at its front, as far as it fits. -/
theorem spare_fill (bytes : Bytes) : (buffer.fill bytes).spare =
    bytes.take buffer.spareLength ++ buffer.spare.drop bytes.length := by
  simp only [spare, fill, List.append_assoc, List.drop_left' buffer.length_take_valid,
    ← List.drop_drop]
  rw [← spare, List.length_take, Nat.min_comm, ← length_spare, ← List.drop_eq_drop_min]

theorem unread_commit (count : Nat) :
    (buffer.commit count).2.unread = buffer.unread ++ buffer.spare.take count := by
  have ordered : buffer.consumed ≤ (buffer.memory.take buffer.valid).length :=
    buffer.length_take_valid.symm ▸ buffer.consumed_le_valid
  simp only [unread, commit]
  rw [List.take_add, ← spare, ← length_spare, ← List.take_eq_take_min,
    List.drop_append_of_le_length ordered]

theorem spare_commit (count : Nat) :
    (buffer.commit count).2.spare = buffer.spare.drop count := by
  simp only [spare, commit, ← List.drop_drop]
  rw [← spare, ← length_spare, ← List.drop_eq_drop_min]

/-- What is put into the spare room is received behind what is unread, as far as it fits. -/
theorem unread_commit_fill_take (bytes : Bytes) :
    ((buffer.fill bytes).commit bytes.length).2.unread =
      buffer.unread ++ bytes.take buffer.spareLength := by
  rw [unread_commit, unread_fill, spare_fill]
  rcases Nat.le_total bytes.length buffer.spareLength with fits | beyond
  · rw [List.take_of_length_le fits, List.take_left]
  · rw [List.drop_of_length_le (buffer.length_spare.symm ▸ beyond), List.append_nil,
      List.take_of_length_le (List.length_take_le' ..)]

/-- What fits into the spare room is received whole. -/
theorem unread_commit_fill {bytes : Bytes} (fits : bytes.length ≤ buffer.spareLength) :
    ((buffer.fill bytes).commit bytes.length).2.unread = buffer.unread ++ bytes := by
  rw [unread_commit_fill_take, List.take_of_length_le fits]

@[simp] theorem capacity_commit_fill (bytes : Bytes) (count : Nat) :
    ((buffer.fill bytes).commit count).2.capacity = buffer.capacity := rfl

/-! ## Consuming -/

@[simp] theorem unread_advance (count : Nat) :
    (buffer.advance count).2.unread = buffer.unread.drop count := by
  rw [List.drop_eq_drop_min, length_unread]
  simp only [unread, advance, List.drop_drop]

@[simp] theorem capacity_advance (count : Nat) :
    (buffer.advance count).2.capacity = buffer.capacity := rfl

/-! ## Making room -/

theorem unread_compact : buffer.compact.unread = buffer.unread := by
  unfold compact
  split
  · rfl
  · have length := buffer.length_unread
    change ((buffer.unread ++ buffer.memory.drop buffer.unreadLength).take
      buffer.unreadLength).drop 0 = buffer.unread
    rw [List.drop_zero, List.take_append_of_le_length (by omega),
      List.take_of_length_le (by omega)]

theorem capacity_compact : buffer.compact.capacity = buffer.capacity := by
  unfold compact
  split <;> rfl

theorem consumed_compact : buffer.compact.consumed = 0 := by
  unfold compact
  split
  next zero => exact zero
  next => rfl

/-- After the unread bytes were moved to the front, all the rest is spare. -/
theorem spareLength_compact :
    buffer.compact.spareLength = buffer.capacity - buffer.unreadLength := by
  unfold compact
  split
  next zero => simp only [spareLength, unreadLength, zero, Nat.sub_zero]
  next => rfl

@[simp] theorem unread_clear : buffer.clear.unread = [] := by
  simp [clear, unread]

@[simp] theorem capacity_clear : buffer.clear.capacity = buffer.capacity := rfl

end TickWire.ByteBuffer
