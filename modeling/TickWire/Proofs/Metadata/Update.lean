import TickWire.Proofs.Metadata.RoundTrip

/-!
# Updates of written metadata

The range of time and the limit are replaced where they stand, without a look at the block
around them.  They stand at the same offset in every block, behind fields of a fixed size,
and take the same number of bytes whatever they are.  So an updated block is the block of
the updated metadata, and one update after another leaves the last.
-/

namespace TickWire

/-! ## Bytes put over others -/

section Overwrite

variable {offset : Nat} {patch bytes : Bytes}

theorem overwrite_eq (within : offset + patch.length ≤ bytes.length) :
    overwrite offset patch bytes =
      bytes.take offset ++ patch ++ bytes.drop (offset + patch.length) := by
  have noGap : offset - bytes.length = 0 := by omega
  simp only [overwrite, noGap, List.replicate_zero, List.append_nil]

theorem length_overwrite (within : offset + patch.length ≤ bytes.length) :
    (overwrite offset patch bytes).length = bytes.length := by
  rw [overwrite_eq within]
  simp only [List.length_append, List.length_take, List.length_drop]
  omega

theorem getElem?_overwrite (within : offset + patch.length ≤ bytes.length) {index : Nat}
    (outside : index < offset ∨ offset + patch.length ≤ index) :
    (overwrite offset patch bytes)[index]? = bytes[index]? := by
  have front : (bytes.take offset).length = offset := by
    rw [List.length_take]
    omega
  have start : (bytes.take offset ++ patch).length = offset + patch.length := by
    rw [List.length_append, front]
  rw [overwrite_eq within]
  rcases outside with before | behind
  · rw [List.append_assoc, List.getElem?_append_left (by omega),
      List.getElem?_take_of_lt before]
  · rw [List.getElem?_append_right (by omega), start, List.getElem?_drop,
      Nat.add_sub_cancel' behind]

/-- What stands between two parts is replaced by as many bytes. -/
theorem overwrite_between (front old new back : Bytes) (same : new.length = old.length) :
    overwrite front.length new (front ++ old ++ back) = front ++ new ++ back := by
  have within : front.length + new.length ≤ (front ++ old ++ back).length := by
    simp only [List.length_append]
    omega
  have start : (front ++ old ++ back).take front.length = front := by
    rw [List.append_assoc, List.take_left]
  have behind : (front ++ old ++ back).drop (front.length + old.length) = back := by
    rw [← List.length_append, List.drop_left]
  rw [overwrite_eq within, same, start, behind]

end Overwrite

/-! ## The range of time and the limit -/

/-- The number of bytes of the range of time and the limit in a version. -/
def queryRangeSize (version : UInt8) : Nat := if version = 1 then 32 else 24

theorem length_queryRange (version : UInt8) (startTime : UInt64)
    (endTime limit : Option NonZero) :
    (queryRange version startTime endTime limit).length = queryRangeSize version := by
  unfold queryRange queryRangeSize
  split <;> simp

/-- A range of time and a limit, as an update sets them. -/
structure QueryRange where
  startTime : UInt64
  endTime : Option NonZero
  limit : Option NonZero

namespace QueryRange

/-- The end of the range as it is read: the greatest number is written like an open end. -/
def readEndTime (range : QueryRange) : Option NonZero :=
  range.endTime.filter fun time => time.value.toNat ≠ nullEndTime

theorem readEndTime_ne_null (range : QueryRange) {time : NonZero}
    (ends : range.readEndTime = some time) : time.value.toNat ≠ nullEndTime := by
  simpa using (Option.filter_eq_some_iff.mp ends).2

/-- The end is written as the one that is read. -/
theorem queryRange_readEndTime (version : UInt8) (range : QueryRange) :
    queryRange version range.startTime range.readEndTime range.limit =
      queryRange version range.startTime range.endTime range.limit := by
  have stored : (range.readEndTime.elim nullEndTime fun time => time.value.toNat) =
      range.endTime.elim nullEndTime fun time => time.value.toNat := by
    rw [readEndTime]
    cases range.endTime with
    | none => rfl
    | some time =>
        rw [Option.filter_some]
        split
        next => rfl
        next null =>
          have same : time.value.toNat = nullEndTime :=
            Decidable.of_not_not fun other => null (decide_eq_true other)
          exact same.symm
  rw [queryRange, queryRange, stored]

/-- Puts the range into a file. -/
def update (version : UInt8) (file : Cursor) (range : QueryRange) : Cursor :=
  updateQueryRange version range.startTime range.endTime range.limit file

/-- Puts one range after the other into a file. -/
def updateAll (version : UInt8) (ranges : List QueryRange) (file : Cursor) : Cursor :=
  ranges.foldl (update version) file

theorem bytes_update (version : UInt8) (file : Cursor) (range : QueryRange) :
    (update version file range).bytes = overwrite queryRangeOffset
      (queryRange version range.startTime range.endTime range.limit) file.bytes := rfl

end QueryRange

/-! ## What updates leave as it is -/

/-- Bytes of the same length that differ at most where the range of time and the limit
stand. -/
structure SameOutsideRange (version : UInt8) (before after : Bytes) : Prop where
  length_eq : after.length = before.length
  getElem?_eq : ∀ index,
    index < queryRangeOffset ∨ queryRangeOffset + queryRangeSize version ≤ index →
      after[index]? = before[index]?

namespace SameOutsideRange

variable {version : UInt8}

theorem refl (bytes : Bytes) : SameOutsideRange version bytes bytes :=
  ⟨rfl, fun _ _ => rfl⟩

theorem trans {before middle after : Bytes} (first : SameOutsideRange version before middle)
    (second : SameOutsideRange version middle after) :
    SameOutsideRange version before after where
  length_eq := second.length_eq.trans first.length_eq
  getElem?_eq := by
    intro index outside
    rw [second.getElem?_eq index outside, first.getElem?_eq index outside]

theorem update (range : QueryRange) {file : Cursor}
    (enough : queryRangeOffset + queryRangeSize version ≤ file.bytes.length) :
    SameOutsideRange version file.bytes (range.update version file).bytes := by
  have length := length_queryRange version range.startTime range.endTime range.limit
  rw [← length] at enough
  constructor
  · rw [QueryRange.bytes_update, length_overwrite enough]
  · intro index outside
    rw [← length] at outside
    rw [QueryRange.bytes_update, getElem?_overwrite enough outside]

theorem updateAll (ranges : List QueryRange) {file : Cursor}
    (enough : queryRangeOffset + queryRangeSize version ≤ file.bytes.length) :
    SameOutsideRange version file.bytes (QueryRange.updateAll version ranges file).bytes := by
  induction ranges generalizing file with
  | nil => exact .refl file.bytes
  | cons range others ih =>
      have first := update range enough
      rw [← first.length_eq] at enough
      exact first.trans (ih enough)

end SameOutsideRange

/-! ## The block around the range -/

namespace Metadata

/-- Metadata with another range of time and limit. -/
def ranged (metadata : Metadata) (range : QueryRange) : Metadata :=
  { metadata with
    startTime := range.startTime
    endTime := range.readEndTime
    limit := range.limit }

/-- The bytes of a block before the range of time. -/
def bytesBeforeRange (metadata : Metadata) : Bytes :=
  metadata.startBytes ++ paddedText datasetWidth metadata.dataset
    ++ LittleEndian.encode 2 (metadata.schema.elim nullSchema Coded.code)

theorem startBytes_append_fieldBytes (metadata : Metadata) :
    metadata.startBytes ++ metadata.fieldBytes = metadata.bytesBeforeRange
      ++ queryRange metadata.version metadata.startTime metadata.endTime metadata.limit
      ++ metadata.bytesBehindRange := by
  simp only [fieldBytes, fieldBytesAround, bytesBeforeRange, List.append_assoc]

/-- Nothing but the range depends on it. -/
theorem ranged_startBytes_append_fieldBytes (metadata : Metadata) (range : QueryRange) :
    (metadata.ranged range).startBytes ++ (metadata.ranged range).fieldBytes =
      metadata.bytesBeforeRange
        ++ queryRange metadata.version range.startTime range.endTime range.limit
        ++ metadata.bytesBehindRange := by
  rw [startBytes_append_fieldBytes, ← range.queryRange_readEndTime]
  rfl

theorem ranged_foldl (metadata : Metadata) (earlier : List QueryRange) (last : QueryRange) :
    (earlier.foldl ranged metadata).ranged last = metadata.ranged last := by
  induction earlier generalizing metadata with
  | nil => rfl
  | cons first others ih => exact ih (metadata.ranged first)

namespace IsStorable

variable {metadata : Metadata}

theorem length_bytesBeforeRange (storable : metadata.IsStorable) :
    metadata.bytesBeforeRange.length = queryRangeOffset := by
  simp only [bytesBeforeRange, List.length_append, metadata.length_startBytes,
    storable.dataset.length_paddedText, LittleEndian.length_encode]
  rfl

theorem ranged (storable : metadata.IsStorable) (range : QueryRange) :
    (metadata.ranged range).IsStorable :=
  { storable with endTime := fun _ => range.readEndTime_ne_null }

/-- A block is long enough to hold the range. -/
theorem le_length_written (storable : metadata.IsStorable) :
    queryRangeOffset + queryRangeSize metadata.version ≤
      (metadata.startBytes ++ metadata.fieldBytes).length := by
  rw [startBytes_append_fieldBytes]
  simp only [List.length_append, storable.length_bytesBeforeRange, length_queryRange]
  omega

/-- An updated block is the block of the updated metadata. -/
theorem bytes_update (storable : metadata.IsStorable) (range : QueryRange) {file : Cursor}
    {rest : Bytes} (holds : file.bytes = metadata.startBytes ++ metadata.fieldBytes ++ rest) :
    (range.update metadata.version file).bytes =
      (metadata.ranged range).startBytes ++ (metadata.ranged range).fieldBytes ++ rest := by
  have replaced := overwrite_between metadata.bytesBeforeRange
    (queryRange metadata.version metadata.startTime metadata.endTime metadata.limit)
    (queryRange metadata.version range.startTime range.endTime range.limit)
    (metadata.bytesBehindRange ++ rest) (by rw [length_queryRange, length_queryRange])
  rw [storable.length_bytesBeforeRange] at replaced
  rw [QueryRange.bytes_update, holds, startBytes_append_fieldBytes,
    ranged_startBytes_append_fieldBytes, List.append_assoc _ _ rest, replaced,
    List.append_assoc _ _ rest]

theorem bytes_updateAll (storable : metadata.IsStorable) (ranges : List QueryRange)
    {file : Cursor} {rest : Bytes}
    (holds : file.bytes = metadata.startBytes ++ metadata.fieldBytes ++ rest) :
    let last := ranges.foldl Metadata.ranged metadata
    (QueryRange.updateAll metadata.version ranges file).bytes =
      last.startBytes ++ last.fieldBytes ++ rest := by
  induction ranges generalizing metadata file with
  | nil => exact holds
  | cons range others ih => exact ih (storable.ranged range) (storable.bytes_update range holds)

end IsStorable

/-- Updates of a written block happen in place.  After every one of them the file is at its
end and as long as before, no byte outside the range of time and the limit has changed, and
reading gives the metadata with the range and limit of the last update, before what
follows. -/
theorem updates_in_place (metadata : Metadata) (storable : metadata.IsStorable) (rest : Bytes)
    (position : Nat) (earlier : List QueryRange) (last : QueryRange) :
    ∃ block, metadata.encode = .ok block ∧
      let before : Cursor := ⟨block ++ rest, position⟩
      let after := QueryRange.updateAll metadata.version (earlier ++ [last]) before
      after.position = after.bytes.length ∧
      after.bytes.length = before.bytes.length ∧
      (∀ index, index < queryRangeOffset ∨
          queryRangeOffset + (if metadata.version = 1 then 32 else 24) ≤ index →
        after.bytes[index]? = before.bytes[index]?) ∧
      ∀ source : Source, source.IsSteady → source.rest = after.bytes →
        ∃ behind, readMetadata source = (.ok (metadata.ranged last), behind) ∧
          behind.rest = rest := by
  refine ⟨_, storable.encode_eq, ?_⟩
  intro before after
  have enough : queryRangeOffset + queryRangeSize metadata.version ≤ before.bytes.length := by
    rw [List.length_append]
    exact Nat.le_add_right_of_le storable.le_length_written
  obtain ⟨length, outside⟩ := SameOutsideRange.updateAll (earlier ++ [last]) enough
  have holds : after.bytes = (metadata.ranged last).startBytes
      ++ (metadata.ranged last).fieldBytes ++ rest := by
    have written : before.bytes = metadata.startBytes ++ metadata.fieldBytes ++ rest := rfl
    have updated := storable.bytes_updateAll (earlier ++ [last]) written
    rwa [List.foldl_append, List.foldl_cons, List.foldl_nil, ranged_foldl] at updated
  refine ⟨?_, length, outside, ?_⟩
  · change (QueryRange.updateAll _ _ _).position = (QueryRange.updateAll _ _ _).bytes.length
    rw [QueryRange.updateAll, List.foldl_append]
    rfl
  · intro source steady same
    obtain ⟨behind, read, left, -⟩ :=
      (storable.ranged last).readMetadata_written steady (same.trans holds)
    exact ⟨behind, read, left⟩

/-- Two updates of a block before two bytes of a record; the end that the second one sets is
read as an open one. -/
theorem updates_in_place_ofOneDay :
    ∃ block, ofOneDay.encode = .ok block ∧
      let after := QueryRange.updateAll 2
        [⟨5, NonZero.of? 6, none⟩, ⟨7, NonZero.of? 0xFFFFFFFFFFFFFFFF, NonZero.of? 3⟩]
        ⟨block ++ [4, 0], 0⟩
      after.position = after.bytes.length ∧ after.bytes.length = (block ++ [4, 0]).length ∧
      ∃ behind, readMetadata { rest := after.bytes, chunk? := some 3 } =
          (.ok { ofOneDay with startTime := 7, limit := NonZero.of? 3 }, behind) ∧
        behind.rest = [4, 0] := by
  obtain ⟨block, encoded, ends, length, -, read⟩ :=
    updates_in_place ofOneDay isStorable_ofOneDay [4, 0] 0 [⟨5, NonZero.of? 6, none⟩]
      ⟨7, NonZero.of? 0xFFFFFFFFFFFFFFFF, NonZero.of? 3⟩
  refine ⟨block, encoded, ends, length, ?_⟩
  exact read { rest := _, chunk? := some 3 } ⟨rfl, by simp⟩ rfl

end Metadata

end TickWire
