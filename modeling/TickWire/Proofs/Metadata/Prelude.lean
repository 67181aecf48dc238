import TickWire.Proofs.Metadata.RoundTrip

/-!
# What a written block announces

A block that is written begins with a version that can be read and with the number of bytes
that follow.  This number is known from the numbers of elements and the size of symbol
fields, whatever the texts are.  Writing bounds it by what four bytes can hold and reading
by a maximum below that, so some blocks that are written are refused.
-/

namespace TickWire.Metadata

variable {metadata : Metadata} {block : Bytes}

theorem isSupported_writtenVersion (known : metadata.version ≤ formatVersion) :
    isSupported metadata.writtenVersion = true := by
  have written : metadata.writtenVersion =
      if metadata.version ≤ 1 then 1 else metadata.version := rfl
  rw [written]
  split
  next => rfl
  next later => exact decide_eq_true ⟨UInt8.le_of_lt (UInt8.not_le.mp later), known⟩

/-- What is written is a prelude of a version that can be read, and fields whose number of
bytes it announces. -/
theorem exists_fields_of_encode (accepted : metadata.encode = .ok block) :
    isSupported metadata.writtenVersion = true ∧
      ∃ fields, metadata.encodeFields = .ok fields ∧
        fields.length < LittleEndian.capacity 4 ∧
        block = preludeBytes metadata.writtenVersion fields.length ++ fields := by
  rw [encode] at accepted
  split at accepted
  next => cases accepted
  next known =>
    obtain ⟨fields, encodedFields, accepted⟩ := ok_of_bind accepted
    obtain ⟨length, announced, accepted⟩ := ok_of_bind accepted
    obtain ⟨small, rfl⟩ := small_of_fixedNumber announced
    cases accepted
    exact ⟨isSupported_writtenVersion (UInt8.not_lt.mp known), fields, encodedFields, small, rfl⟩

theorem length_of_encode (accepted : metadata.encode = .ok block) :
    block.length = preludeSize + metadata.fieldsSize := by
  obtain ⟨-, fields, encodedFields, -, rfl⟩ := exists_fields_of_encode accepted
  rw [List.length_append, length_of_encodeFields encodedFields]
  rfl

/-- A prelude that is written is accepted unless too many bytes follow it. -/
theorem decodePrelude_of_encode (accepted : metadata.encode = .ok block) :
    decodePrelude (block.take preludeSize) =
      if metadata.fieldsSize ≤ metadataMaximumSize then
        .ok (metadata.writtenVersion, metadata.fieldsSize)
      else .error (.invalidLength (.metadataBeyondMaximum metadata.fieldsSize)) := by
  obtain ⟨supported, fields, encodedFields, small, rfl⟩ := exists_fields_of_encode accepted
  have start : (preludeBytes metadata.writtenVersion fields.length ++ fields).take preludeSize =
      preludeBytes metadata.writtenVersion fields.length := List.take_left' rfl
  rw [start, decodePrelude_preludeBytes supported small, length_of_encodeFields encodedFields,
    if_neg (Nat.not_lt.mpr metadata.metadataFixedSize_le_fieldsSize)]
  split
  next beyond => rw [if_neg (Nat.not_le.mpr beyond)]
  next within => rw [if_pos (Nat.not_lt.mp within)]

/-- Whatever is written begins as a file does, and its length is known from the metadata.  The
first eight bytes are accepted, with the version that was written and the number of bytes that
follow, exactly if this number is no greater than a block may have. -/
theorem written_prelude (metadata : Metadata) (block : Bytes)
    (encoded : metadata.encode = .ok block) :
    startsAsFile block = true ∧ block.length = preludeSize + metadata.fieldsSize ∧
      decodePrelude (block.take preludeSize) =
        if metadata.fieldsSize ≤ metadataMaximumSize then
          .ok (max metadata.version 1, block.length - preludeSize)
        else .error (.invalidLength (.metadataBeyondMaximum (block.length - preludeSize))) := by
  have length := length_of_encode encoded
  have follows : block.length - preludeSize = metadata.fieldsSize := by omega
  refine ⟨?_, length, ?_⟩
  · obtain ⟨supported, fields, -, -, rfl⟩ := exists_fields_of_encode encoded
    exact startsAsFile_preludeBytes supported fields.length fields
  · rw [follows]
    exact decodePrelude_of_encode encoded

/-- A block of 175 bytes. -/
theorem written_prelude_ofOneDay :
    ∃ block, ofOneDay.encode = .ok block ∧ startsAsFile block = true ∧
      decodePrelude (block.take preludeSize) = .ok (2, 167) := by
  have encoded := isStorable_ofOneDay.encode_eq
  obtain ⟨starts, length, read⟩ := written_prelude ofOneDay _ encoded
  refine ⟨_, encoded, starts, ?_⟩
  rw [read, if_pos isStorable_ofOneDay.fieldsSize_le, length]
  rfl

/-- Metadata of 1024 mappings without intervals in the widest symbol fields. -/
def ofWideMappings : Metadata where
  version := 2
  dataset := "XNAS.ITCH"
  schema := some .trades
  startTime := 1697240529000000000
  endTime := none
  limit := none
  symbologyIn := some .rawSymbol
  symbologyOut := .instrumentId
  stamped := false
  symbolWidth := 65535
  symbols := []
  partiallyFound := []
  notFound := []
  mappings := List.replicate 1024 ⟨"A", []⟩

theorem fieldsSize_ofWideMappings : ofWideMappings.fieldsSize = 67112056 := by
  simp only [fieldsSize, ofWideMappings, List.map_replicate, List.sum_replicate]
  rfl

theorem textsFit_ofWideMappings : ofWideMappings.TextsFit where
  dataset := by decide
  symbols := nofun
  partiallyFound := nofun
  notFound := nofun
  mappings := by
    intro mapping member
    obtain rfl := (List.mem_replicate.mp member).2
    exact ⟨by decide, nofun⟩

theorem isCountable_ofWideMappings : ofWideMappings.IsCountable where
  symbols := by decide
  partiallyFound := by decide
  notFound := by decide
  mappings := by
    rw [ofWideMappings, List.length_replicate]
    decide
  intervals := by
    intro mapping member
    obtain rfl := (List.mem_replicate.mp member).2
    decide

/-- A block is written whose prelude is refused, as it announces too many bytes. -/
theorem decodePrelude_refuses_written :
    ∃ block, ofWideMappings.encode = .ok block ∧
      decodePrelude (block.take preludeSize) =
        .error (.invalidLength (.metadataBeyondMaximum 67112056)) := by
  have layout : HasLayout ofWideMappings.version ofWideMappings.symbolWidth :=
    .inr ⟨rfl, by decide, by decide⟩
  have size := fieldsSize_ofWideMappings
  have encoded := textsFit_ofWideMappings.encode_eq isCountable_ofWideMappings layout
    (size ▸ by decide)
  have beyond : ¬ofWideMappings.fieldsSize ≤ metadataMaximumSize := by
    rw [size]
    decide
  refine ⟨_, encoded, ?_⟩
  rw [decodePrelude_of_encode encoded, if_neg beyond, size]

end TickWire.Metadata
