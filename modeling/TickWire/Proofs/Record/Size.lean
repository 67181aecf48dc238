import TickWire.Record.Frame

/-!
# Sizes of records

Every record is written in exactly the number of bytes that its type has, so a record
whose header says this number is a frame.
-/

namespace TickWire

theorem PriceLevel.length_toBytes (level : PriceLevel) :
    level.toBytes.length = PriceLevel.size := by
  simp [PriceLevel.toBytes, PriceLevel.size]

theorem FieldType.length_toBytes (type : FieldType) (value : type.Value) :
    (type.toBytes value).length = type.size := by
  cases type with
  | word width signed => exact length_wordBytes width value
  | text size => exact value.length_toList
  | filler size => exact value.length_toList
  | levels count =>
      obtain ⟨levels, rfl⟩ := value
      simp only [FieldType.toBytes, FieldType.size]
      induction levels with
      | nil => rfl
      | cons level levels ih =>
          rw [List.flatMap_cons, List.length_append, ih, level.length_toBytes,
            List.length_cons, Nat.mul_succ, Nat.add_comm]

theorem Values.length_toBytes (layout : Layout) (values : layout.Values) :
    (Values.toBytes layout values).length = layout.size := by
  induction layout with
  | nil => rfl
  | cons field rest ih =>
      obtain ⟨value, values⟩ := values
      simp [Values.toBytes, Layout.size, ih, FieldType.length_toBytes]

theorem Header.length_toBytes (header : Header) : header.toBytes.length = headerSize := by
  simp [Header.toBytes, headerSize]

theorem SendTime.length_toBytes (stamped : Bool) (time : SendTime stamped) :
    (SendTime.toBytes stamped time).length = if stamped then 8 else 0 := by
  cases stamped <;> simp [SendTime.toBytes]

/-- A length byte can announce the size of every record type. -/
theorem RecordType.sizeOfLength_lengthOfSize (type : RecordType) :
    Header.sizeOfLength (Header.lengthOfSize type.size) = type.size := by
  obtain ⟨kind, stamped⟩ := type
  cases kind <;> cases stamped <;> rfl

namespace Record

variable {type : RecordType}

theorem length_toBytes (record : Record type) : record.toBytes.length = type.size := by
  simp [toBytes, RecordType.size, Header.length_toBytes, Values.length_toBytes,
    SendTime.length_toBytes, Nat.add_assoc]

theorem headD_toBytes (record : Record type) :
    record.toBytes.headD 0 = record.header.length := by
  simp [toBytes, Header.toBytes]

/-- A record as a frame, where its header says how long it is. -/
def toFrame (record : Record type)
    (sized : Header.sizeOfLength record.header.length = type.size) : Frame where
  bytes := record.toBytes
  headerSize_le_length := by
    rw [length_toBytes, RecordType.size]
    omega
  length_eq := by rw [length_toBytes, headD_toBytes, sized]

end Record

namespace Frame

theorem ext_bytes {left right : Frame} (same : left.bytes = right.bytes) : left = right := by
  cases left
  cases right
  cases same
  rfl

/-- The first byte of a frame announces its size. -/
theorem bytes_eq_cons (frame : Frame) :
    ∃ first others, frame.bytes = first :: others ∧
      Header.sizeOfLength first = others.length + 1 ∧ headerSize ≤ others.length + 1 := by
  have header := frame.headerSize_le_length
  have length := frame.length_eq
  cases bytes : frame.bytes with
  | nil => simp [bytes, headerSize] at header
  | cons first others =>
      rw [bytes, List.length_cons] at header length
      exact ⟨first, others, rfl, length.symm, header⟩

theorem headD_bytes_append (frame : Frame) (later : Bytes) :
    (frame.bytes ++ later).headD 0 = frame.bytes.headD 0 := by
  obtain ⟨first, others, bytes, -⟩ := frame.bytes_eq_cons
  simp [bytes]

/-- A frame is found at the start of bytes, whatever follows it. -/
theorem ofBytes_append (address : Nat) (aligned : address % recordAlignment = 0)
    (frame : Frame) (later : Bytes) :
    ofBytes address (frame.bytes ++ later) = .ok frame := by
  have header := frame.headerSize_le_length
  have length := frame.length_eq
  have long : ¬(frame.bytes ++ later).length < headerSize := by
    rw [List.length_append]
    omega
  have within : ¬(frame.bytes ++ later).length < frame.bytes.length := by
    rw [List.length_append]
    omega
  have notBelow : ¬frame.bytes.length < headerSize := by omega
  unfold ofBytes
  simp only [headD_bytes_append, ← length, if_neg long, aligned, dif_neg notBelow,
    dif_neg within, ne_eq, not_true_eq_false, if_false]
  exact congrArg Except.ok (ext_bytes (by simp))

theorem ofBytes_bytes (address : Nat) (aligned : address % recordAlignment = 0)
    (frame : Frame) : ofBytes address frame.bytes = .ok frame := by
  simpa using ofBytes_append address aligned frame []

end Frame

end TickWire
