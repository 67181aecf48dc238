import TickWire.Proofs.Record.Size

/-!
# The codec of records

Every part of a record is stored in a fixed number of bytes, is read back from the front
of bytes whatever follows, and is written as the bytes that it was read from.  These laws
pass from parts to what they make up, so they hold of every record type by the shape of
its layout alone.
-/

namespace TickWire

/-- An encoding in `size` bytes, and the reading of it from the front of bytes. -/
structure IsCodec {α : Type} (size : Nat) (encode : α → Bytes) (decode : Bytes → α) :
    Prop where
  length_encode : ∀ value, (encode value).length = size
  decode_append : ∀ value later, decode (encode value ++ later) = value
  encode_decode : ∀ bytes, size ≤ bytes.length → encode (decode bytes) = bytes.take size

namespace IsCodec

variable {α β : Type} {size : Nat} {encode : α → Bytes} {decode : Bytes → α}

theorem decode_encode (codec : IsCodec size encode decode) (value : α) :
    decode (encode value) = value := by
  have alone := codec.decode_append value []
  rwa [List.append_nil] at alone

/-- Bytes of exactly the size are written as they were read. -/
theorem encode_decode_of_length (codec : IsCodec size encode decode) {bytes : Bytes}
    (length : bytes.length = size) : encode (decode bytes) = bytes := by
  rw [codec.encode_decode bytes (Nat.le_of_eq length.symm), ← length, List.take_length]

/-- A value is read from bytes that are enough for it, whatever follows them. -/
theorem decode_of_append (codec : IsCodec size encode decode) {bytes : Bytes}
    (enough : size ≤ bytes.length) (later : Bytes) : decode (bytes ++ later) = decode bytes :=
  calc
    decode (bytes ++ later) = decode (encode (decode bytes) ++ (bytes.drop size ++ later)) := by
      rw [codec.encode_decode bytes enough, ← List.append_assoc, List.take_append_drop]
    _ = decode bytes := codec.decode_append (decode bytes) _

/-- Nothing takes no bytes. -/
theorem unit : IsCodec 0 (fun _ : Unit => []) (fun _ => ()) where
  length_encode := by
    intro value
    rfl
  decode_append := by
    intro value later
    rfl
  encode_decode := by
    intro bytes enough
    exact List.take_zero.symm

/-- One part after the other. -/
theorem pair {firstSize secondSize : Nat} {encodeFirst : α → Bytes} {decodeFirst : Bytes → α}
    {encodeSecond : β → Bytes} {decodeSecond : Bytes → β}
    (first : IsCodec firstSize encodeFirst decodeFirst)
    (second : IsCodec secondSize encodeSecond decodeSecond) :
    IsCodec (firstSize + secondSize)
      (fun value : α × β => encodeFirst value.1 ++ encodeSecond value.2)
      (fun bytes => (decodeFirst bytes, decodeSecond (bytes.drop firstSize))) where
  length_encode := by
    intro value
    rw [List.length_append, first.length_encode, second.length_encode]
  decode_append := by
    intro value later
    rw [List.append_assoc, first.decode_append, ← first.length_encode value.1,
      List.drop_left, second.decode_append]
  encode_decode := by
    intro bytes enough
    have enoughFirst : firstSize ≤ bytes.length := Nat.le_of_add_right_le enough
    have enoughSecond : secondSize ≤ (bytes.drop firstSize).length := by
      rw [List.length_drop]
      omega
    rw [first.encode_decode bytes enoughFirst, second.encode_decode _ enoughSecond,
      List.take_add]

/-- The same bytes seen as values of another type. -/
theorem image (codec : IsCodec size encode decode) {encodeWhole : β → Bytes}
    {decodeWhole : Bytes → β} (view : β → α) (build : α → β)
    (build_view : ∀ whole, build (view whole) = whole)
    (view_build : ∀ value, view (build value) = value)
    (encode_eq : ∀ whole, encodeWhole whole = encode (view whole))
    (decode_eq : ∀ bytes, decodeWhole bytes = build (decode bytes)) :
    IsCodec size encodeWhole decodeWhole where
  length_encode := by
    intro whole
    rw [encode_eq, codec.length_encode]
  decode_append := by
    intro whole later
    rw [encode_eq, decode_eq, codec.decode_append, build_view]
  encode_decode := by
    intro bytes enough
    rw [encode_eq, decode_eq, view_build, codec.encode_decode bytes enough]

end IsCodec

/-! ## Parts of records -/

theorem isCodec_word (width : Nat) : IsCodec width (wordBytes width) (wordOfBytes width) where
  length_encode := length_wordBytes width
  decode_append := wordOfBytes_wordBytes_append width
  encode_decode := by
    intro bytes enough
    exact wordBytes_wordOfBytes width enough

theorem isCodec_byte : IsCodec 1 (fun byte => [byte]) (fun bytes => bytes.headD 0) where
  length_encode := by
    intro byte
    rfl
  decode_append := by
    intro byte later
    rfl
  encode_decode := by
    intro bytes enough
    cases bytes with
    | nil => contradiction
    | cons byte others => rfl

theorem isCodec_u16 : IsCodec 2 (fun number : UInt16 => LittleEndian.encode 2 number.toNat)
    (fun bytes => UInt16.ofNat (LittleEndian.decode (bytes.take 2))) := by
  apply (isCodec_word 2).image UInt16.toBitVec UInt16.ofBitVec <;> intro <;> rfl

theorem isCodec_u32 : IsCodec 4 (fun number : UInt32 => LittleEndian.encode 4 number.toNat)
    (fun bytes => UInt32.ofNat (LittleEndian.decode (bytes.take 4))) := by
  apply (isCodec_word 4).image UInt32.toBitVec UInt32.ofBitVec <;> intro <;> rfl

theorem isCodec_u64 : IsCodec 8 (fun number : UInt64 => LittleEndian.encode 8 number.toNat)
    (fun bytes => UInt64.ofNat (LittleEndian.decode (bytes.take 8))) := by
  apply (isCodec_word 8).image UInt64.toBitVec UInt64.ofBitVec <;> intro <;> rfl

theorem Row.isCodec_bytes (size : Nat) :
    IsCodec size (fun row : Row UInt8 size => row.toList) (Row.ofList size 0) where
  length_encode := Row.length_toList
  decode_append := by
    intro row later
    apply Row.ext_toList
    simp [Row.ofList, row.length_toList]
  encode_decode := by
    intro bytes enough
    exact List.take_append_of_le_length enough

theorem PriceLevel.isCodec : IsCodec PriceLevel.size PriceLevel.toBytes PriceLevel.ofBytes := by
  have parts := (isCodec_word 8).pair ((isCodec_word 8).pair ((isCodec_word 4).pair
    ((isCodec_word 4).pair ((isCodec_word 4).pair (isCodec_word 4)))))
  apply parts.image
    (fun level => (level.bidPrice, level.askPrice, level.bidSize, level.askSize,
      level.bidCount, level.askCount))
    (fun (bidPrice, askPrice, bidSize, askSize, bidCount, askCount) =>
      ⟨bidPrice, askPrice, bidSize, askSize, bidCount, askCount⟩)
  · intro level
    rfl
  · intro values
    rfl
  · intro level
    simp only [PriceLevel.toBytes, List.append_assoc]
  · intro bytes
    simp only [PriceLevel.ofBytes, List.drop_drop]

/-- The levels that are read are the levels whose bytes stand there. -/
theorem PriceLevel.listOfBytes_append (levels : List PriceLevel) (later : Bytes) :
    PriceLevel.listOfBytes levels.length (levels.flatMap PriceLevel.toBytes ++ later) =
      levels := by
  induction levels with
  | nil => rfl
  | cons level others ih =>
      rw [List.length_cons, List.flatMap_cons, List.append_assoc, PriceLevel.listOfBytes,
        PriceLevel.isCodec.decode_append, ← level.length_toBytes, List.drop_left, ih]

theorem PriceLevel.toBytes_listOfBytes (count : Nat) (bytes : Bytes)
    (enough : PriceLevel.size * count ≤ bytes.length) :
    (PriceLevel.listOfBytes count bytes).flatMap PriceLevel.toBytes =
      bytes.take (PriceLevel.size * count) := by
  induction count generalizing bytes with
  | zero => exact List.take_zero.symm
  | succ count ih =>
      rw [Nat.mul_succ, Nat.add_comm (PriceLevel.size * count)] at enough ⊢
      have enoughFirst : PriceLevel.size ≤ bytes.length := Nat.le_of_add_right_le enough
      have enoughOthers : PriceLevel.size * count ≤ (bytes.drop PriceLevel.size).length := by
        rw [List.length_drop]
        omega
      rw [PriceLevel.listOfBytes, List.flatMap_cons,
        PriceLevel.isCodec.encode_decode bytes enoughFirst, ih _ enoughOthers, List.take_add]

theorem FieldType.isCodec (type : FieldType) :
    IsCodec type.size type.toBytes type.ofBytes := by
  cases type with
  | word width signed => exact isCodec_word width
  | text size => exact Row.isCodec_bytes size
  | filler size => exact Row.isCodec_bytes size
  | levels count =>
      constructor
      · exact FieldType.length_toBytes (.levels count)
      · intro row later
        apply Row.ext_toList
        obtain ⟨levels, rfl⟩ := row
        exact PriceLevel.listOfBytes_append levels later
      · intro bytes enough
        exact PriceLevel.toBytes_listOfBytes count bytes enough

/-- Fields one after the other, by the shape of the layout. -/
theorem Values.isCodec (layout : Layout) :
    IsCodec layout.size (Values.toBytes layout) (Values.ofBytes layout) := by
  induction layout with
  | nil => exact .unit
  | cons field rest ih => exact field.type.isCodec.pair ih

theorem Header.isCodec : IsCodec headerSize Header.toBytes Header.ofBytes := by
  have parts := isCodec_byte.pair (isCodec_byte.pair (isCodec_u16.pair
    (isCodec_u32.pair isCodec_u64)))
  apply parts.image
    (fun header => (header.length, header.rtype, header.publisherId, header.instrumentId,
      header.eventTime))
    (fun (length, rtype, publisherId, instrumentId, eventTime) =>
      ⟨length, rtype, publisherId, instrumentId, eventTime⟩)
  · intro header
    rfl
  · intro values
    rfl
  · intro header
    simp only [Header.toBytes, List.append_assoc, List.cons_append, List.nil_append]
  · intro bytes
    simp only [Header.ofBytes, List.drop_drop]

theorem SendTime.isCodec (stamped : Bool) :
    IsCodec (if stamped then 8 else 0) (SendTime.toBytes stamped) (SendTime.ofBytes stamped) := by
  cases stamped with
  | true => exact isCodec_u64
  | false => exact .unit

namespace Record

theorem isCodec (type : RecordType) : IsCodec type.size toBytes (ofBytes type) := by
  have parts := (Header.isCodec.pair (Values.isCodec type.kind.layout)).pair
    (SendTime.isCodec type.stamped)
  apply parts.image (fun record => ((record.header, record.fields), record.sendTime))
    (fun ((header, fields), sendTime) => ⟨header, fields, sendTime⟩)
  · intro record
    rfl
  · intro values
    rfl
  · intro record
    rfl
  · intro bytes
    rfl

end Record

/-! ## Layouts in memory -/

/-- The alignment that a field of a type needs. -/
def FieldType.alignment : FieldType → Nat
  | word width _ => width
  | levels _ => recordAlignment
  | text _ | filler _ => 1

/-- Whether every field of a layout that begins at an offset is aligned without a gap before
it. -/
def Layout.isAligned : (offset : Nat) → Layout → Bool
  | _, [] => true
  | offset, field :: rest =>
      offset % field.type.alignment == 0 && isAligned (offset + field.type.size) rest

/-- No layout has gaps: the fields lie where their alignment wants them, the time of sending
follows aligned, and whole records follow each other aligned. -/
theorem RecordType.isAligned (type : RecordType) :
    type.kind.layout.isAligned headerSize = true ∧
      (headerSize + type.kind.layout.size) % recordAlignment = 0 ∧
      type.size % recordAlignment = 0 := by
  obtain ⟨kind, stamped⟩ := type
  cases kind <;> cases stamped <;> decide

end TickWire
