import TickWire.Proofs.Metadata.Prelude

/-!
# Metadata of version 0

Version 0 is an old name of version 1, and that is the version that its blocks announce.  But
their fields are laid out as those of version 2, with a size of symbol fields and without a
record count.  Both layouts have the same size, and all that differs lies between the limit
and the definition of a schema.  So a block of version 0 is read without an error, as metadata
whose symbologies and stamp are what the unused bytes stand for.
-/

namespace TickWire.Metadata

variable {metadata : Metadata}

/-- The metadata by the name that its version has now. -/
def versioned (metadata : Metadata) : Metadata := { metadata with version := 1 }

/-- What is read in place of metadata of version 0. -/
def misread (metadata : Metadata) : Metadata :=
  { metadata with
    version := 1
    symbologyIn := some .instrumentId
    symbologyOut := .instrumentId
    stamped := false }

/-- What lies in a block of version 0 where the record count of version 1 is read. -/
def misreadCount (metadata : Metadata) : Bytes :=
  LittleEndian.encode 1 (metadata.symbologyIn.elim nullSymbology Coded.code)
    ++ LittleEndian.encode 1 (Coded.code metadata.symbologyOut)
    ++ LittleEndian.encode 1 (if metadata.stamped then 1 else 0)
    ++ LittleEndian.encode 2 metadata.symbolWidth
    ++ List.replicate 3 0

theorem length_misreadCount (metadata : Metadata) : metadata.misreadCount.length = 8 := by
  simp [misreadCount]

/-- The fields of a block of version 0 are fields of version 1 with another record count: of
the unused bytes, the first three are the last of it, and the next three are read as the
symbologies and the stamp. -/
theorem fieldBytes_of_unversioned (unversioned : metadata.version = 0) :
    metadata.fieldBytes = metadata.misread.fieldBytesCounting metadata.misreadCount := by
  have unused : List.replicate (reservedSize 0) (0 : UInt8) =
      List.replicate 3 0
        ++ (LittleEndian.encode 1 (Coded.code Symbology.instrumentId)
          ++ (LittleEndian.encode 1 (Coded.code Symbology.instrumentId)
            ++ (LittleEndian.encode 1 0 ++ List.replicate (reservedSize 1) 0))) := by
    decide
  have written : metadata.storedWidth = LittleEndian.encode 2 metadata.symbolWidth := by
    rw [storedWidth, unversioned]
    rfl
  have unwritten : metadata.misread.storedWidth = [] := rfl
  simp only [fieldBytes_eq, fieldBytesCounting, fieldBytesAround, bytesBehindRange, unversioned,
    written, unwritten, unused, misreadCount, List.append_assoc]
  rfl

/-- Metadata that can be stored by the name that its version has now. -/
structure IsUnversioned (metadata : Metadata) : Prop where
  version_eq : metadata.version = 0
  isStorable : metadata.versioned.IsStorable

namespace IsUnversioned

theorem isStorable_misread (unversioned : metadata.IsUnversioned) :
    metadata.misread.IsStorable := by
  have storable := unversioned.isStorable
  exact ⟨⟨storable.dataset, storable.symbols, storable.partiallyFound, storable.notFound,
    storable.mappings⟩, storable.layout, storable.endTime, storable.fieldsSize_le⟩

theorem textsFit (unversioned : metadata.IsUnversioned) : metadata.TextsFit := by
  have fit := unversioned.isStorable.toTextsFit
  exact ⟨fit.dataset, fit.symbols, fit.partiallyFound, fit.notFound, fit.mappings⟩

theorem isCountable (unversioned : metadata.IsUnversioned) : metadata.IsCountable := by
  have countable := unversioned.isStorable.isCountable
  exact ⟨countable.symbols, countable.partiallyFound, countable.notFound, countable.mappings,
    countable.intervals⟩

theorem length_fieldBytes (unversioned : metadata.IsUnversioned) :
    metadata.fieldBytes.length = metadata.fieldsSize :=
  length_of_encodeFields (unversioned.textsFit.encodeFields_eq unversioned.isCountable
    unversioned.isStorable.hasLayout.width_le)

/-- The block that is written, with what it is read as. -/
def block (unversioned : metadata.IsUnversioned) : MetadataBlock where
  start := metadata.misread.startBytes
  fields := metadata.fieldBytes
  version := 1
  metadata := metadata.misread
  length_start := metadata.misread.length_startBytes
  start_accepted := by
    rw [unversioned.length_fieldBytes]
    exact unversioned.isStorable_misread.decodePrelude_startBytes
  fields_accepted := by
    rw [fieldBytes_of_unversioned unversioned.version_eq]
    exact unversioned.isStorable_misread.decodeMetadata_fieldBytesCounting
      (fun _ => metadata.length_misreadCount) (fun notFirst => absurd rfl notFirst)

theorem encode_eq (unversioned : metadata.IsUnversioned) :
    metadata.encode = .ok unversioned.block.bytes := by
  have known : metadata.version ≤ formatVersion := by
    rw [unversioned.version_eq]
    decide
  have written : metadata.writtenVersion = 1 := by
    rw [writtenVersion, unversioned.version_eq]
    rfl
  rw [unversioned.textsFit.encode_eq_written unversioned.isCountable known
    unversioned.isStorable.hasLayout.width_le unversioned.isStorable.fieldsSize_lt, written]
  rfl

theorem length_block (unversioned : metadata.IsUnversioned) :
    unversioned.block.bytes.length = preludeSize + metadata.fieldsSize := by
  rw [MetadataBlock.bytes, List.length_append, unversioned.block.length_start]
  exact congrArg (preludeSize + ·) unversioned.length_fieldBytes

end IsUnversioned

theorem misread_eq_versioned_iff (metadata : Metadata) :
    metadata.misread = metadata.versioned ↔
      metadata.symbologyIn = some .instrumentId ∧ metadata.symbologyOut = .instrumentId ∧
        metadata.stamped = false := by
  rw [misread, versioned, mk.injEq]
  simp only [true_and, and_true, @eq_comm _ _ metadata.symbologyIn,
    @eq_comm _ _ metadata.symbologyOut, @eq_comm _ _ metadata.stamped]

/-- Metadata of version 0 that could be stored as version 1 is written, and what was written
is read without an error and to its end, with version 1 and every other field unchanged but
three: the symbologies are those of instrument identifiers, and records are not stamped.  So
the same metadata is read with version 1 exactly where it said so. -/
theorem readMetadata_encode_unversioned (metadata : Metadata)
    (unversioned : metadata.version = 0)
    (storable : ({ metadata with version := 1 } : Metadata).IsStorable) :
    ∃ bytes, metadata.encode = .ok bytes ∧
      bytes.length = preludeSize + metadata.fieldsSize ∧
      (∀ (source : Source) (rest : Bytes), source.IsSteady → source.rest = bytes ++ rest →
        ∃ after,
          readMetadata source =
            (.ok { metadata with
              version := 1
              symbologyIn := some .instrumentId
              symbologyOut := .instrumentId
              stamped := false }, after) ∧
          after.rest = rest ∧ after.position = source.position + bytes.length) ∧
      ∀ source : Source, source.IsSteady → source.rest = bytes →
        ((readMetadata source).1 = .ok { metadata with version := 1 } ↔
          metadata.symbologyIn = some .instrumentId ∧
            metadata.symbologyOut = .instrumentId ∧ metadata.stamped = false) := by
  have holds : metadata.IsUnversioned := ⟨unversioned, storable⟩
  refine ⟨_, holds.encode_eq, holds.length_block, ?_, ?_⟩
  · intro source rest steady begins
    exact exists_readMetadata_block steady holds.block begins
  · intro source steady whole
    have read := readMetadata_block steady holds.block (whole.trans (List.append_nil _).symm)
    rw [read, Except.ok.injEq]
    exact metadata.misread_eq_versioned_iff

/-- Metadata of version 0 that names raw symbols, of records with a time of sending. -/
def ofUnversionedDay : Metadata :=
  { ofOneDay with version := 0, symbolWidth := symbolWidthV1, stamped := true }

theorem isUnversioned_ofUnversionedDay : ofUnversionedDay.IsUnversioned where
  version_eq := rfl
  isStorable := {
    layout := .inl ⟨rfl, rfl⟩
    dataset := by decide
    symbols := by decide
    partiallyFound := by decide
    notFound := by decide
    mappings := by
      simp only [versioned, ofUnversionedDay, ofOneDay, List.forall_mem_singleton]
      exact ⟨by decide, by decide⟩
    endTime := nofun
    fieldsSize_le := by decide }

/-- A block before two bytes of a record. -/
theorem readMetadata_encode_unversioned_day :
    ∃ bytes, ofUnversionedDay.encode = .ok bytes ∧ bytes.length = 250 ∧
      ∃ after,
        readMetadata { rest := bytes ++ [4, 0], chunk? := some 3 } =
          (.ok { ofUnversionedDay with
            version := 1, symbologyIn := some .instrumentId, stamped := false }, after) ∧
        after.rest = [4, 0] ∧ after.position = 250 := by
  have holds := isUnversioned_ofUnversionedDay
  obtain ⟨bytes, encoded, length, read, -⟩ :=
    readMetadata_encode_unversioned ofUnversionedDay holds.version_eq holds.isStorable
  have size : bytes.length = 250 := length
  obtain ⟨after, decoded, left, position⟩ :=
    read { rest := bytes ++ [4, 0], chunk? := some 3 } [4, 0] ⟨rfl, by simp⟩ rfl
  exact ⟨bytes, encoded, size, after, decoded, left, by rw [position, size]⟩

/-- What is written for raw symbols is not read as what it says. -/
theorem readMetadata_misreads_unversioned :
    ofUnversionedDay.IsUnversioned ∧ ∃ bytes, ofUnversionedDay.encode = .ok bytes ∧
      (readMetadata { rest := bytes }).1 ≠ .ok { ofUnversionedDay with version := 1 } := by
  have holds := isUnversioned_ofUnversionedDay
  refine ⟨holds, _, holds.encode_eq, ?_⟩
  have steady : Source.IsSteady { rest := holds.block.bytes } := ⟨rfl, by simp⟩
  rw [readMetadata_block steady holds.block (List.append_nil _).symm]
  intro same
  have stamp : false = true := congrArg stamped (Except.ok.inj same)
  cases stamp

end TickWire.Metadata
