import Mathlib.Algebra.GroupWithZero.Nat
import TickWire.Proofs.Metadata.Fields
import TickWire.Proofs.Stream.File

/-!
# Round trip of metadata

Metadata whose texts fit their fields is written, and what is written is read back as the
same metadata, whatever follows it.  The size of the block is known from the numbers of
its elements; no block that is small enough to be read has too many of them to be
counted.
-/

namespace TickWire

/-! ## Mappings -/

/-- The bytes of an interval. -/
def MappingInterval.bytes (width : Nat) (interval : MappingInterval) : Bytes :=
  LittleEndian.encode 4 interval.startDate.packed
    ++ LittleEndian.encode 4 interval.endDate.packed ++ paddedText width interval.symbol

namespace SymbolMapping

/-- The bytes of a mapping. -/
def bytes (width : Nat) (mapping : SymbolMapping) : Bytes :=
  paddedText width mapping.rawSymbol ++ LittleEndian.encode 4 mapping.intervals.length
    ++ mapping.intervals.flatMap (MappingInterval.bytes width)

/-- The number of bytes of a mapping. -/
def size (width : Nat) (mapping : SymbolMapping) : Nat :=
  width + 4 + mapping.intervals.length * (8 + width)

/-- A mapping whose texts fit fields of some width. -/
structure Fits (width : Nat) (mapping : SymbolMapping) : Prop where
  rawSymbol : FitsField width mapping.rawSymbol
  symbols : ∀ interval ∈ mapping.intervals, FitsField width interval.symbol

end SymbolMapping

section Mappings

variable {width : Nat} {intervals : List MappingInterval} {mappings : List SymbolMapping}

theorem intervalList_eq (fit : ∀ interval ∈ intervals, FitsField width interval.symbol) :
    intervalList width intervals =
      .ok (intervals.flatMap (MappingInterval.bytes width)) := by
  induction intervals with
  | nil => rfl
  | cons first others ih =>
      rw [List.forall_mem_cons] at fit
      rw [intervalList, fit.1.fixedText_eq, ok_bind, ih fit.2, ok_bind]
      rfl

theorem length_of_intervalList {bytes : Bytes}
    (accepted : intervalList width intervals = .ok bytes) :
    bytes.length = intervals.length * (8 + width) := by
  induction intervals generalizing bytes with
  | nil =>
      cases accepted
      simp
  | cons first others ih =>
      obtain ⟨symbol, acceptedSymbol, accepted⟩ := ok_of_bind accepted
      obtain ⟨tail, acceptedOthers, accepted⟩ := ok_of_bind accepted
      cases accepted
      simp only [List.length_append, LittleEndian.length_encode,
        length_of_fixedText acceptedSymbol, ih acceptedOthers, List.length_cons, Nat.succ_mul]
      omega

theorem length_of_mappingList {bytes : Bytes}
    (accepted : mappingList width mappings = .ok bytes) :
    bytes.length = (mappings.map (SymbolMapping.size width)).sum := by
  induction mappings generalizing bytes with
  | nil =>
      cases accepted
      rfl
  | cons first others ih =>
      obtain ⟨rawSymbol, acceptedSymbol, accepted⟩ := ok_of_bind accepted
      obtain ⟨count, counted, accepted⟩ := ok_of_bind accepted
      obtain ⟨listed, acceptedIntervals, accepted⟩ := ok_of_bind accepted
      obtain ⟨tail, acceptedOthers, accepted⟩ := ok_of_bind accepted
      cases accepted
      simp only [List.length_append, length_of_fixedText acceptedSymbol,
        length_of_fixedNumber counted, length_of_intervalList acceptedIntervals,
        ih acceptedOthers, List.map_cons, List.sum_cons, SymbolMapping.size]

/-- There are no more mappings, and no more intervals in one, than bytes. -/
theorem counts_le_size (width : Nat) (mappings : List SymbolMapping) :
    mappings.length ≤ (mappings.map (SymbolMapping.size width)).sum ∧
      ∀ mapping ∈ mappings,
        mapping.intervals.length ≤ (mappings.map (SymbolMapping.size width)).sum := by
  induction mappings with
  | nil => simp
  | cons first others ih =>
      have own : first.intervals.length + 4 ≤ first.size width := by
        rw [SymbolMapping.size, Nat.mul_add]
        omega
      simp only [List.length_cons, List.map_cons, List.sum_cons, List.forall_mem_cons]
      refine ⟨by omega, by omega, fun mapping member => ?_⟩
      have other := ih.2 mapping member
      omega

theorem mappingList_eq (fit : ∀ mapping ∈ mappings, mapping.Fits width)
    (few : ∀ mapping ∈ mappings, mapping.intervals.length < LittleEndian.capacity 4) :
    mappingList width mappings = .ok (mappings.flatMap (SymbolMapping.bytes width)) := by
  induction mappings with
  | nil => rfl
  | cons first others ih =>
      rw [List.forall_mem_cons] at fit few
      rw [mappingList, fit.1.rawSymbol.fixedText_eq, ok_bind, countBytes,
        fixedNumber_eq few.1, ok_bind, intervalList_eq fit.1.symbols, ok_bind,
        ih fit.2 few.2, ok_bind]
      rfl

namespace BlockReader

theorem reads_intervals (fit : ∀ interval ∈ intervals, FitsField width interval.symbol)
    (rawSymbol : String) (index : Nat) :
    Reads (BlockReader.intervals width rawSymbol intervals.length index)
      (intervals.flatMap (MappingInterval.bytes width)) intervals := by
  induction intervals generalizing index with
  | nil => exact .pure []
  | cons first others ih =>
      rw [List.forall_mem_cons] at fit
      simp only [List.flatMap_cons, MappingInterval.bytes, List.append_assoc]
      refine (reads_date first.startDate _).bind ?_
      refine (reads_date first.endDate _).bind ?_
      refine (reads_text fit.1 _).bind ?_
      exact (ih fit.2 (index + 1)).bind_nil (.pure _)

theorem reads_mappings (fit : ∀ mapping ∈ mappings, mapping.Fits width)
    (few : ∀ mapping ∈ mappings, mapping.intervals.length < LittleEndian.capacity 4)
    (index : Nat) :
    Reads (BlockReader.mappings width mappings.length index)
      (mappings.flatMap (SymbolMapping.bytes width)) mappings := by
  induction mappings generalizing index with
  | nil => exact .pure []
  | cons first others ih =>
      rw [List.forall_mem_cons] at fit few
      simp only [List.flatMap_cons, SymbolMapping.bytes, List.append_assoc]
      refine (reads_text fit.1.rawSymbol _).bind ?_
      refine (reads_number few.1 _).bind ?_
      refine (reads_intervals fit.1.symbols _ 0).bind ?_
      exact (ih fit.2 few.2 (index + 1)).bind_nil (.pure _)

end BlockReader

end Mappings

/-! ## The block -/

namespace Metadata

/-- The number of bytes of a block after its prelude. -/
def fieldsSize (metadata : Metadata) : Nat :=
  metadataFixedSize + 5 * 4
    + (metadata.symbols.length + metadata.partiallyFound.length + metadata.notFound.length)
      * metadata.symbolWidth
    + (metadata.mappings.map (SymbolMapping.size metadata.symbolWidth)).sum

theorem metadataFixedSize_le_fieldsSize (metadata : Metadata) :
    metadataFixedSize ≤ metadata.fieldsSize := by
  rw [fieldsSize]
  omega

/-- What follows the prelude is as long as the numbers of elements say. -/
theorem length_of_encodeFields {metadata : Metadata} {fields : Bytes}
    (accepted : metadata.encodeFields = .ok fields) :
    fields.length = metadata.fieldsSize := by
  -- Every part of the block was written, in this order.
  obtain ⟨_, dataset, accepted⟩ := ok_of_bind accepted
  obtain ⟨storedWidth, stored, accepted⟩ := ok_of_bind accepted
  obtain ⟨_, symbols, accepted⟩ := ok_of_bind accepted
  obtain ⟨_, partiallyFound, accepted⟩ := ok_of_bind accepted
  obtain ⟨_, notFound, accepted⟩ := ok_of_bind accepted
  obtain ⟨_, mappingCount, accepted⟩ := ok_of_bind accepted
  obtain ⟨_, mappings, accepted⟩ := ok_of_bind accepted
  -- Version 1 has a record count in place of the size of symbol fields.
  have versioned : (queryRange metadata.version metadata.startTime metadata.endTime
      metadata.limit).length + storedWidth.length + reservedSize metadata.version = 79 := by
    unfold symbolWidthBytes at stored
    unfold queryRange reservedSize
    split at stored
    next first =>
      cases stored
      simp [first]
    next notFirst => simp [notFirst, length_of_fixedNumber stored]
  cases accepted
  simp only [List.length_append, length_of_fixedText dataset, LittleEndian.length_encode,
    List.length_replicate, length_of_textList symbols, length_of_textList partiallyFound,
    length_of_textList notFound, length_of_fixedNumber mappingCount,
    length_of_mappingList mappings, fieldsSize, Nat.add_mul]
  have fixed : metadataFixedSize = datasetWidth + 84 := rfl
  omega

/-! ## The range of time and the limit -/

theorem toNat_lt_capacity (number : UInt64) : number.toNat < LittleEndian.capacity 8 :=
  number.toNat_lt

theorem storedEndTime_lt (endTime : Option NonZero) :
    (endTime.elim nullEndTime fun time => time.value.toNat) < LittleEndian.capacity 8 := by
  cases endTime with
  | none => decide
  | some time => exact toNat_lt_capacity time.value

theorem storedLimit_lt (limit : Option NonZero) :
    (limit.elim 0 fun limit => limit.value.toNat) < LittleEndian.capacity 8 := by
  cases limit with
  | none => decide
  | some limit => exact toNat_lt_capacity limit.value

theorem of?_toNat_value (number : NonZero) :
    NonZero.of? (UInt64.ofNat number.value.toNat) = some number := by
  rw [UInt64.ofNat_toNat, NonZero.of?, dif_pos number.ne_zero]

theorem limit_of_stored (limit : Option NonZero) :
    NonZero.of? (UInt64.ofNat (limit.elim 0 fun limit => limit.value.toNat)) = limit := by
  cases limit with
  | none => rfl
  | some limit => exact of?_toNat_value limit

theorem endTime_of_stored {endTime : Option NonZero}
    (notNull : ∀ time, endTime = some time → time.value.toNat ≠ nullEndTime) :
    (if (endTime.elim nullEndTime fun time => time.value.toNat) = nullEndTime then none
      else NonZero.of? (UInt64.ofNat (endTime.elim nullEndTime fun time => time.value.toNat))) =
      endTime := by
  cases endTime with
  | none => rfl
  | some time => exact (if_neg (notNull time rfl)).trans (of?_toNat_value time)

theorem stamped_of_stored (stamped : Bool) :
    ((if stamped = true then 1 else 0 : Nat) != 0) = stamped := by
  cases stamped <;> rfl

/-- The size of symbol fields is the one of version 1, or can be stored. -/
def HasLayout (version : UInt8) (width : Nat) : Prop :=
  version = 1 ∧ width = symbolWidthV1 ∨ version = 2 ∧ 1 ≤ width ∧ width ≤ 65535

namespace HasLayout

variable {version : UInt8} {width : Nat}

theorem isSupported (layout : HasLayout version width) : TickWire.isSupported version = true := by
  rcases layout with ⟨version, -⟩ | ⟨version, -⟩ <;> rw [version] <;> rfl

theorem not_beyond (layout : HasLayout version width) : ¬formatVersion < version := by
  rcases layout with ⟨version, -⟩ | ⟨version, -⟩ <;> rw [version] <;> decide

theorem width_pos (layout : HasLayout version width) : 0 < width := by
  rcases layout with ⟨-, width⟩ | ⟨-, width, -⟩
  · rw [width]
    decide
  · exact width

theorem width_le (layout : HasLayout version width) : width ≤ 65535 := by
  rcases layout with ⟨-, width⟩ | ⟨-, -, width⟩
  · rw [width]
    decide
  · exact width

end HasLayout

/-- Every text fits its field. -/
structure TextsFit (metadata : Metadata) : Prop where
  dataset : FitsField datasetWidth metadata.dataset
  symbols : ∀ symbol ∈ metadata.symbols, FitsField metadata.symbolWidth symbol
  partiallyFound : ∀ symbol ∈ metadata.partiallyFound, FitsField metadata.symbolWidth symbol
  notFound : ∀ symbol ∈ metadata.notFound, FitsField metadata.symbolWidth symbol
  mappings : ∀ mapping ∈ metadata.mappings, mapping.Fits metadata.symbolWidth

/-- Metadata that a block can hold as it is. -/
structure IsStorable (metadata : Metadata) : Prop extends TextsFit metadata where
  layout : metadata.version = 1 ∧ metadata.symbolWidth = symbolWidthV1 ∨
    metadata.version = 2 ∧ 1 ≤ metadata.symbolWidth ∧ metadata.symbolWidth ≤ 65535
  /-- No end of the range is written like an open one. -/
  endTime : ∀ time, metadata.endTime = some time → time.value.toNat ≠ nullEndTime
  fieldsSize_le : metadata.fieldsSize ≤ metadataMaximumSize

/-- The size of symbol fields, where it is stored. -/
def storedWidth (metadata : Metadata) : Bytes :=
  if metadata.version = 1 then [] else LittleEndian.encode 2 metadata.symbolWidth

/-- The bytes of a block behind the limit. -/
def bytesBehindRange (metadata : Metadata) : Bytes :=
  LittleEndian.encode 1 (metadata.symbologyIn.elim nullSymbology Coded.code)
    ++ LittleEndian.encode 1 (Coded.code metadata.symbologyOut)
    ++ LittleEndian.encode 1 (if metadata.stamped then 1 else 0)
    ++ metadata.storedWidth
    ++ List.replicate (reservedSize metadata.version) 0
    ++ LittleEndian.encode 4 0
    ++ countedTexts metadata.symbolWidth metadata.symbols
    ++ countedTexts metadata.symbolWidth metadata.partiallyFound
    ++ countedTexts metadata.symbolWidth metadata.notFound
    ++ LittleEndian.encode 4 metadata.mappings.length
    ++ metadata.mappings.flatMap (SymbolMapping.bytes metadata.symbolWidth)

/-- The bytes of a block after its prelude, with any bytes where the range of time and the
limit are. -/
def fieldBytesAround (range : Bytes) (metadata : Metadata) : Bytes :=
  paddedText datasetWidth metadata.dataset
    ++ LittleEndian.encode 2 (metadata.schema.elim nullSchema Coded.code)
    ++ range ++ metadata.bytesBehindRange

/-- The bytes of a block after its prelude. -/
def fieldBytes (metadata : Metadata) : Bytes :=
  metadata.fieldBytesAround
    (queryRange metadata.version metadata.startTime metadata.endTime metadata.limit)

/-- The bytes of a block after its prelude, with any bytes where version 1 has a record
count. -/
def fieldBytesCounting (recordCount : Bytes) (metadata : Metadata) : Bytes :=
  metadata.fieldBytesAround
    (LittleEndian.encode 8 metadata.startTime.toNat
      ++ LittleEndian.encode 8 (metadata.endTime.elim nullEndTime fun time => time.value.toNat)
      ++ LittleEndian.encode 8 (metadata.limit.elim 0 fun limit => limit.value.toNat)
      ++ recordCount)

/-- The record count that is written, where there is one. -/
def writtenCount (version : UInt8) : Bytes :=
  if version = 1 then LittleEndian.encode 8 nullRecordCount else []

theorem fieldBytes_eq (metadata : Metadata) :
    metadata.fieldBytes = metadata.fieldBytesCounting (writtenCount metadata.version) := rfl

/-- The prelude of a block. -/
def startBytes (metadata : Metadata) : Bytes :=
  formatLetters ++ [metadata.version] ++ LittleEndian.encode 4 metadata.fieldsSize

theorem length_startBytes (metadata : Metadata) : metadata.startBytes.length = preludeSize := by
  simp [startBytes, formatLetters, preludeSize]

theorem symbolWidthBytes_eq {metadata : Metadata} (narrow : metadata.symbolWidth ≤ 65535) :
    metadata.symbolWidthBytes = .ok metadata.storedWidth := by
  rw [symbolWidthBytes, storedWidth]
  split
  · rfl
  · exact fixedNumber_eq (Nat.lt_of_le_of_lt narrow (by decide)) "u16"

/-- No list has more elements than can be counted. -/
structure IsCountable (metadata : Metadata) : Prop where
  symbols : metadata.symbols.length < LittleEndian.capacity 4
  partiallyFound : metadata.partiallyFound.length < LittleEndian.capacity 4
  notFound : metadata.notFound.length < LittleEndian.capacity 4
  mappings : metadata.mappings.length < LittleEndian.capacity 4
  intervals : ∀ mapping ∈ metadata.mappings,
    mapping.intervals.length < LittleEndian.capacity 4

namespace TextsFit

variable {metadata : Metadata}

theorem encodeFields_eq (fit : metadata.TextsFit) (countable : metadata.IsCountable)
    (narrow : metadata.symbolWidth ≤ 65535) :
    metadata.encodeFields = .ok metadata.fieldBytes := by
  simp only [encodeFields, fit.dataset.fixedText_eq, symbolWidthBytes_eq narrow,
    textList_eq fit.symbols countable.symbols,
    textList_eq fit.partiallyFound countable.partiallyFound,
    textList_eq fit.notFound countable.notFound, countBytes,
    fixedNumber_eq countable.mappings,
    mappingList_eq fit.mappings countable.intervals, ok_bind, fieldBytes, fieldBytesAround,
    bytesBehindRange, List.append_assoc]
  rfl

/-- What is written begins with the version that is written in place of its own. -/
theorem encode_eq_written (fit : metadata.TextsFit) (countable : metadata.IsCountable)
    (known : metadata.version ≤ formatVersion) (narrow : metadata.symbolWidth ≤ 65535)
    (small : metadata.fieldsSize < LittleEndian.capacity 4) :
    metadata.encode =
      .ok (preludeBytes metadata.writtenVersion metadata.fieldsSize ++ metadata.fieldBytes) := by
  have encodedFields := fit.encodeFields_eq countable narrow
  rw [encode, if_neg (UInt8.not_lt.mpr known), encodedFields]
  simp only [ok_bind, length_of_encodeFields encodedFields, fixedNumber_eq small]
  rfl

theorem encode_eq (fit : metadata.TextsFit) (countable : metadata.IsCountable)
    (layout : HasLayout metadata.version metadata.symbolWidth)
    (small : metadata.fieldsSize < LittleEndian.capacity 4) :
    metadata.encode = .ok (metadata.startBytes ++ metadata.fieldBytes) := by
  have version : metadata.writtenVersion = metadata.version := by
    rw [writtenVersion]
    rcases layout with ⟨version, -⟩ | ⟨version, -⟩ <;> rw [version] <;> decide
  rw [fit.encode_eq_written countable (UInt8.not_lt.mp layout.not_beyond) layout.width_le small,
    version]
  rfl

end TextsFit

namespace IsStorable

open BlockReader

variable {metadata : Metadata}

theorem hasLayout (storable : metadata.IsStorable) :
    HasLayout metadata.version metadata.symbolWidth :=
  storable.layout

theorem fieldsSize_lt (storable : metadata.IsStorable) :
    metadata.fieldsSize < LittleEndian.capacity 4 :=
  Nat.lt_of_le_of_lt storable.fieldsSize_le (by decide)

/-- A block that can be read has no more elements of any kind than can be counted. -/
theorem isCountable (storable : metadata.IsStorable) : metadata.IsCountable := by
  have size := storable.fieldsSize_le
  have texts := Nat.le_mul_of_pos_right (metadata.symbols.length
    + metadata.partiallyFound.length + metadata.notFound.length) storable.hasLayout.width_pos
  obtain ⟨mappings, intervals⟩ := counts_le_size metadata.symbolWidth metadata.mappings
  have countable : metadataMaximumSize < LittleEndian.capacity 4 := by decide
  rw [fieldsSize] at size
  refine ⟨by omega, by omega, by omega, by omega, fun mapping member => ?_⟩
  have atMost := intervals mapping member
  omega

theorem encodeFields_eq (storable : metadata.IsStorable) :
    metadata.encodeFields = .ok metadata.fieldBytes :=
  storable.toTextsFit.encodeFields_eq storable.isCountable storable.hasLayout.width_le

theorem length_fieldBytes (storable : metadata.IsStorable) :
    metadata.fieldBytes.length = metadata.fieldsSize :=
  length_of_encodeFields storable.encodeFields_eq

theorem reads_symbolWidth (storable : metadata.IsStorable) :
    Reads (BlockReader.symbolWidth metadata.version) metadata.storedWidth
      metadata.symbolWidth := by
  unfold BlockReader.symbolWidth storedWidth
  dsimp only
  have positive : ¬metadata.symbolWidth = 0 := Nat.ne_of_gt storable.hasLayout.width_pos
  rcases storable.layout with ⟨first, width⟩ | ⟨second, -, atMost⟩
  · rw [if_pos first, if_pos first, ← width]
    refine (Reads.pure metadata.symbolWidth).nil_bind ?_
    rw [if_neg positive]
    exact .pure _
  · have notFirst : ¬metadata.version = 1 := by
      rw [second]
      decide
    rw [if_neg notFirst, if_neg notFirst]
    refine (reads_number (Nat.lt_of_le_of_lt atMost (by decide)) _).bind_nil ?_
    rw [if_neg positive]
    exact .pure _

/-- Only version 1 has a record count, of which nothing is kept. -/
theorem reads_fieldBytesCounting (storable : metadata.IsStorable) {recordCount : Bytes}
    (first : metadata.version = 1 → recordCount.length = 8)
    (notFirst : ¬metadata.version = 1 → recordCount = []) :
    Reads (BlockReader.metadata metadata.version) (metadata.fieldBytesCounting recordCount)
      metadata := by
  obtain ⟨symbols, partiallyFound, notFound, mappings, intervals⟩ := storable.isCountable
  unfold BlockReader.metadata fieldBytesCounting fieldBytesAround bytesBehindRange
  dsimp only
  simp only [List.append_assoc]
  -- One step for each field, in the order in which they are written.
  refine (reads_text storable.dataset _).bind ?_
  refine (reads_optionalMember readsCodes_schema (by decide) metadata.schema _).bind ?_
  refine (reads_number (toNat_lt_capacity metadata.startTime) _).bind ?_
  refine (reads_number (storedEndTime_lt metadata.endTime) _).bind ?_
  refine (reads_number (storedLimit_lt metadata.limit) _).bind ?_
  refine Reads.optional (fun isFirst => .take (first isFirst) _) notFirst ?_
  refine (reads_optionalMember readsCodes_symbology (by decide) metadata.symbologyIn _).bind ?_
  refine (reads_number (readsCodes_symbology.code_lt_of_lt (by decide) _) _).bind ?_
  refine (Reads.lift (member_eq readsCodes_symbology metadata.symbologyOut)).nil_bind ?_
  refine (reads_number (by split <;> decide) _).bind ?_
  refine storable.reads_symbolWidth.bind ?_
  refine (Reads.take List.length_replicate _).bind ?_
  refine (reads_number (by decide) _).bind ?_
  rw [if_neg (not_not_intro rfl)]
  refine (reads_texts storable.symbols symbols _).bind ?_
  refine (reads_texts storable.partiallyFound partiallyFound _).bind ?_
  refine (reads_texts storable.notFound notFound _).bind ?_
  refine (reads_number mappings _).bind ?_
  refine (reads_mappings storable.mappings intervals 0).bind_nil ?_
  rw [UInt64.ofNat_toNat, endTime_of_stored storable.endTime, limit_of_stored,
    stamped_of_stored]
  exact .pure metadata

/-- Whatever the record count is, the fields are read as the metadata. -/
theorem decodeMetadata_fieldBytesCounting (storable : metadata.IsStorable) {recordCount : Bytes}
    (first : metadata.version = 1 → recordCount.length = 8)
    (notFirst : ¬metadata.version = 1 → recordCount = []) :
    decodeMetadata metadata.version (metadata.fieldBytesCounting recordCount) =
      .ok metadata := by
  have read := storable.reads_fieldBytesCounting first notFirst 0 []
  rw [List.append_nil] at read
  rw [decodeMetadata, checkVersion, if_pos storable.hasLayout.isSupported, ok_bind, read, ok_bind]
  rfl

theorem encode_eq (storable : metadata.IsStorable) :
    metadata.encode = .ok (metadata.startBytes ++ metadata.fieldBytes) :=
  storable.toTextsFit.encode_eq storable.isCountable storable.hasLayout storable.fieldsSize_lt

theorem decodePrelude_startBytes (storable : metadata.IsStorable) :
    decodePrelude metadata.startBytes = .ok (metadata.version, metadata.fieldsSize) := by
  have announced :=
    decodePrelude_preludeBytes storable.hasLayout.isSupported storable.fieldsSize_lt
  rw [if_neg (Nat.not_lt.mpr metadata.metadataFixedSize_le_fieldsSize),
    if_neg (Nat.not_lt.mpr storable.fieldsSize_le)] at announced
  exact announced

theorem decodeMetadata_fieldBytes (storable : metadata.IsStorable) :
    decodeMetadata metadata.version metadata.fieldBytes = .ok metadata := by
  rw [fieldBytes_eq]
  apply storable.decodeMetadata_fieldBytesCounting
  · intro first
    rw [writtenCount, if_pos first, LittleEndian.length_encode]
  · intro notFirst
    rw [writtenCount, if_neg notFirst]

/-- The block of metadata that can be stored. -/
def block (storable : metadata.IsStorable) : MetadataBlock where
  start := metadata.startBytes
  fields := metadata.fieldBytes
  version := metadata.version
  metadata
  length_start := metadata.length_startBytes
  start_accepted := storable.length_fieldBytes ▸ storable.decodePrelude_startBytes
  fields_accepted := storable.decodeMetadata_fieldBytes

theorem length_block_le (storable : metadata.IsStorable) :
    storable.block.bytes.length ≤ preludeSize + metadataMaximumSize := by
  change (metadata.startBytes ++ metadata.fieldBytes).length ≤ _
  rw [List.length_append, metadata.length_startBytes, storable.length_fieldBytes]
  exact Nat.add_le_add_left storable.fieldsSize_le _

/-- The written bytes are read back from the front of a source. -/
theorem readMetadata_written (storable : metadata.IsStorable) {source : Source} {rest : Bytes}
    (steady : source.IsSteady)
    (holds : source.rest = metadata.startBytes ++ metadata.fieldBytes ++ rest) :
    ∃ after, readMetadata source = (.ok metadata, after) ∧ after.rest = rest ∧
      after.position =
        source.position + (metadata.startBytes ++ metadata.fieldBytes).length :=
  exists_readMetadata_block steady storable.block holds

end IsStorable

/-- Metadata that can be stored is written, and reading what was written gives the same
metadata, takes exactly what was written and leaves what follows. -/
theorem readMetadata_encode (metadata : Metadata) (storable : metadata.IsStorable) :
    ∃ bytes, metadata.encode = .ok bytes ∧
      bytes.length = preludeSize + metadata.fieldsSize ∧
      ∀ (source : Source) (rest : Bytes), source.IsSteady → source.rest = bytes ++ rest →
        ∃ after, readMetadata source = (.ok metadata, after) ∧ after.rest = rest ∧
          after.position = source.position + bytes.length := by
  refine ⟨_, storable.encode_eq, ?_, ?_⟩
  · rw [List.length_append, metadata.length_startBytes, storable.length_fieldBytes]
  · exact fun source rest steady holds => storable.readMetadata_written steady holds

/-- Metadata of version 2 with a symbol that was resolved for one day. -/
def ofOneDay : Metadata where
  version := 2
  dataset := "GLBX.MDP3"
  schema := some .trades
  startTime := 1704067200000000000
  endTime := none
  limit := NonZero.of? 1000
  symbologyIn := some .rawSymbol
  symbologyOut := .instrumentId
  stamped := false
  symbolWidth := 7
  symbols := ["ESH4", "NQH4"]
  partiallyFound := []
  notFound := ["NQH4"]
  mappings := [⟨"ESH4", [⟨⟨2024, 1, 1, by decide⟩, ⟨2024, 1, 2, by decide⟩, "17077"⟩]⟩]

theorem isStorable_ofOneDay : ofOneDay.IsStorable where
  layout := .inr (by decide)
  dataset := by decide
  symbols := by decide
  partiallyFound := by decide
  notFound := by decide
  mappings := by
    simp only [ofOneDay, List.forall_mem_singleton]
    exact ⟨by decide, by decide⟩
  endTime := nofun
  fieldsSize_le := by decide

/-- A block of the size that its numbers of elements give, before two bytes of a record. -/
theorem readMetadata_encode_ofOneDay :
    ∃ bytes, ofOneDay.encode = .ok bytes ∧ bytes.length = 175 ∧
      ∃ after,
        readMetadata { rest := bytes ++ [4, 0], chunk? := some 3 } = (.ok ofOneDay, after) ∧
        after.rest = [4, 0] ∧ after.position = 175 := by
  obtain ⟨bytes, encoded, length, read⟩ := readMetadata_encode ofOneDay isStorable_ofOneDay
  have size : bytes.length = 175 := length
  obtain ⟨after, decoded, left, position⟩ :=
    read { rest := bytes ++ [4, 0], chunk? := some 3 } [4, 0] ⟨rfl, by simp⟩ rfl
  exact ⟨bytes, encoded, size, after, decoded, left, by rw [position, size]⟩

end Metadata

end TickWire
