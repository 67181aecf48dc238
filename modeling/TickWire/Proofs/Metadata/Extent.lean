import TickWire.Proofs.Metadata.Legible

/-!
# How far a block is read

The metadata that is read from a block says how many bytes of the block were read.  What
follows these bytes does not matter, and none of them can be missing: a block that ends
before is refused for the field that it ends in, whatever the rest of it would have been.
-/

namespace TickWire

/-- Bytes ended too early for a field that begins within them. -/
def EndsEarly {α : Type} (available : Nat) (result : Except Error α) : Prop :=
  ∃ field needed offset, result = .error (.truncated field needed offset available) ∧
    offset ≤ available ∧ available < offset + needed

theorem EndsEarly.bind {α β : Type} {available : Nat} {result : Except Error α}
    (early : EndsEarly available result) (next : α → Except Error β) :
    EndsEarly available (result >>= next) := by
  obtain ⟨field, needed, offset, refused, within, beyond⟩ := early
  rw [refused]
  exact ⟨field, needed, offset, rfl, within, beyond⟩

namespace BlockReader

variable {α β : Type}

/-! ## The bytes of a step -/

/-- Bytes are all that a step takes for a value: what follows them does not matter, and
wherever they are cut they end early. -/
structure TakesWhole (step : BlockReader α) (bytes : Bytes) (value : α) : Prop where
  reads : Reads step bytes value
  cut : ∀ offset count, count < bytes.length →
    EndsEarly (offset + count) (step ⟨offset, bytes.take count⟩)

namespace TakesWhole

/-- A step that takes nothing has nothing that could be cut. -/
theorem of_nil {step : BlockReader α} {value : α} (reads : Reads step [] value) :
    TakesWhole step [] value where
  reads
  cut := by
    intro offset count short
    cases short

theorem take {bytes : Bytes} {count : Nat} (length : bytes.length = count) (field : String) :
    TakesWhole (BlockReader.take count field) bytes bytes where
  reads := .take length field
  cut := by
    intro offset kept short
    have size : (bytes.take kept).length = kept := List.length_take_of_le short.le
    have missing : ¬count ≤ (bytes.take kept).length := by
      rw [size, ← length]
      exact Nat.not_le.mpr short
    have refused : BlockReader.take count field ⟨offset, bytes.take kept⟩ =
        .error (.truncated field count offset (offset + kept)) := by
      rw [BlockReader.take, if_neg missing, size]
    have beyond : offset + kept < offset + count := by
      rw [← length]
      exact Nat.add_lt_add_left short offset
    exact ⟨field, count, offset, refused, Nat.le_add_right offset kept, beyond⟩

/-- Bytes of two steps that are cut end early in the step that they are cut in. -/
theorem bind {step : BlockReader α} {next : α → BlockReader β} {first second : Bytes}
    {value : α} {result : β} (one : TakesWhole step first value)
    (two : TakesWhole (next value) second result) :
    TakesWhole (step >>= next) (first ++ second) result where
  reads := one.reads.bind two.reads
  cut := by
    intro offset count short
    rw [bind_run]
    rcases Nat.lt_or_ge count first.length with inFirst | inSecond
    · rw [List.take_append_of_le_length inFirst.le]
      exact (one.cut offset count inFirst).bind _
    · obtain ⟨kept, rfl⟩ := Nat.exists_eq_add_of_le inSecond
      have shortSecond : kept < second.length := by
        rw [List.length_append] at short
        exact Nat.lt_of_add_lt_add_left short
      rw [List.take_length_add_append, one.reads, ok_bind, ← Nat.add_assoc]
      exact two.cut (offset + first.length) kept shortSecond

end TakesWhole

/-! ## The number of bytes -/

/-- What a step gives says how many bytes it takes, when `earlier` bytes that were taken
before are counted with them. -/
def Measures (earlier : Nat) (step : BlockReader α) (size : α → Nat) : Prop :=
  ∀ position value after, step position = .ok (value, after) →
    ∃ bytes, position.rest = bytes ++ after.rest ∧ size value = earlier + bytes.length ∧
      TakesWhole step bytes value

namespace Measures

variable {earlier : Nat} {size : α → Nat}

theorem pure {value : α} (size_eq : size value = earlier) :
    Measures earlier (Pure.pure value) size := by
  rintro position _ _ ⟨⟩
  exact ⟨[], rfl, size_eq, .of_nil (.pure value)⟩

theorem lift {result : Except Error α}
    (size_eq : ∀ value, result = .ok value → size value = earlier) :
    Measures earlier (liftM result) size := by
  intro position value after ran
  cases result with
  | error error => cases ran
  | ok found =>
      cases ran
      exact ⟨[], rfl, size_eq _ rfl, .of_nil (.lift rfl)⟩

/-- What the first step takes is counted for the second. -/
theorem bind_of {step : BlockReader β} {next : β → BlockReader α} {first : β → Nat}
    (one : Measures 0 step first)
    (two : ∀ value, Measures (earlier + first value) (next value) size) :
    Measures earlier (step >>= next) size := by
  intro position value after ran
  rw [bind_run] at ran
  obtain ⟨⟨middle, between⟩, ranFirst, ranSecond⟩ := ok_of_bind ran
  obtain ⟨front, rest_eq, front_size, whole⟩ := one _ _ _ ranFirst
  obtain ⟨back, between_eq, back_size, wholeNext⟩ := two middle _ _ _ ranSecond
  refine ⟨front ++ back, ?_, ?_, whole.bind wholeNext⟩
  · rw [List.append_assoc, ← between_eq]
    exact rest_eq
  · rw [back_size, front_size, Nat.zero_add, List.length_append, Nat.add_assoc]

/-- A block that is refused gives nothing that could be counted. -/
theorem guarded {condition : Prop} [Decidable condition] {error : Error}
    {refused : β → BlockReader α} {next : BlockReader α} (two : Measures earlier next size) :
    Measures earlier (if condition then MonadExcept.throw error >>= refused else next) size := by
  split
  next =>
    intro position value after ran
    cases ran
  next => exact two

/-- A step that some blocks need is counted in these. -/
theorem optional {condition : Prop} [Decidable condition] {step : BlockReader β}
    {next : BlockReader α} {first : Nat} (one : Measures 0 step fun _ => first)
    (two : Measures (earlier + if condition then first else 0) next size) :
    Measures earlier (if condition then step >>= fun _ => next else next) size := by
  split
  next holds =>
    rw [if_pos holds] at two
    exact one.bind_of fun _ => two
  next fails =>
    rw [if_neg fails] at two
    exact two

end Measures

theorem measures_take (count : Nat) (field : String) :
    Measures 0 (take count field) fun _ => count := by
  intro position bytes after ran
  unfold take at ran
  split at ran
  next enough =>
    cases ran
    have length : (position.rest.take count).length = count := List.length_take_of_le enough
    refine ⟨_, (List.take_append_drop count _).symm, ?_, .take length field⟩
    rw [length, Nat.zero_add]
  next => cases ran

theorem measures_number (width : Nat) (field : String) :
    Measures 0 (number width field) fun _ => width :=
  (measures_take width field).bind_of fun _ => .pure (Nat.zero_add width).symm

theorem measures_text (width : Nat) (field : String) :
    Measures 0 (BlockReader.text width field) fun _ => width :=
  (measures_take width field).bind_of fun _ => .lift fun _ _ => (Nat.zero_add width).symm

theorem measures_member (α : Type) [Coded α] (code : Nat) :
    Measures 0 (liftM (member α code) : BlockReader α) fun _ => 0 :=
  .lift fun _ _ => rfl

theorem measures_optionalMember (α : Type) [Coded α] (width null : Nat) (field : String) :
    Measures 0 (optionalMember α width null field) fun _ => width := by
  refine (measures_number width field).bind_of fun code => ?_
  split
  next => exact .pure (Nat.zero_add width).symm
  next => exact (measures_member α code).bind_of fun _ => .pure (Nat.zero_add width).symm

theorem length_of_textsOf {width : Nat} {field : String} {count index : Nat} {bytes : Bytes}
    {texts : List String} (read : textsOf width field count index bytes = .ok texts) :
    texts.length = count := by
  induction count generalizing index bytes texts with
  | zero =>
      cases read
      rfl
  | succ count ih =>
      obtain ⟨first, -, read⟩ := ok_of_bind read
      obtain ⟨others, readOthers, read⟩ := ok_of_bind read
      cases read
      exact congrArg Nat.succ (ih readOthers)

/-- All texts of a list are taken before the first of them is looked at. -/
theorem measures_texts (width : Nat) (field : String) :
    Measures 0 (BlockReader.texts width field) fun found => 4 + found.length * width := by
  refine (measures_number 4 field).bind_of fun count => ?_
  refine (measures_take (count * width) field).bind_of fun bytes => .lift fun found read => ?_
  rw [length_of_textsOf read, Nat.zero_add]

theorem measures_date (field : String) : Measures 0 (BlockReader.date field) fun _ => 4 :=
  (measures_number 4 field).bind_of fun _ => .lift fun _ _ => rfl

theorem measures_intervals (width : Nat) (rawSymbol : String) (count index : Nat) :
    Measures 0 (intervals width rawSymbol count index) fun found =>
      found.length * (8 + width) := by
  induction count generalizing index with
  | zero => exact .pure (Nat.zero_mul _)
  | succ count ih =>
      refine (measures_date _).bind_of fun startDate => ?_
      refine (measures_date _).bind_of fun endDate => ?_
      refine (measures_text _ _).bind_of fun symbol => ?_
      refine (ih (index + 1)).bind_of fun others => .pure ?_
      rw [List.length_cons, Nat.succ_mul]
      omega

theorem measures_mappings (width count index : Nat) :
    Measures 0 (mappings width count index) fun found =>
      (found.map (SymbolMapping.size width)).sum := by
  induction count generalizing index with
  | zero => exact .pure rfl
  | succ count ih =>
      refine (measures_text _ _).bind_of fun rawSymbol => ?_
      refine (measures_number _ _).bind_of fun intervalCount => ?_
      refine (measures_intervals _ _ _ _).bind_of fun intervals => ?_
      refine (ih (index + 1)).bind_of fun others => .pure ?_
      rw [List.map_cons, List.sum_cons, SymbolMapping.size, Nat.zero_add]

theorem measures_symbolWidth (version : UInt8) :
    Measures 0 (symbolWidth version) fun _ => if version = 1 then 0 else 2 := by
  unfold symbolWidth
  dsimp only
  by_cases first : version = 1
  · simp only [if_pos first]
    have nothing : Measures 0 (Pure.pure symbolWidthV1) fun _ => 0 := .pure rfl
    exact nothing.bind_of fun width => .guarded (.pure rfl)
  · simp only [if_neg first]
    exact (measures_number _ _).bind_of fun width => .guarded (.pure rfl)

/-- Metadata says how many bytes were taken for it. -/
theorem measures_metadata (version : UInt8) :
    Measures 0 (BlockReader.metadata version) Metadata.fieldsSize := by
  unfold BlockReader.metadata
  dsimp only
  -- One step for each field, in the order in which they are read.
  refine (measures_text _ _).bind_of fun dataset => ?_
  refine (measures_optionalMember _ _ _ _).bind_of fun schema => ?_
  refine (measures_number _ _).bind_of fun startTime => ?_
  refine (measures_number _ _).bind_of fun endTime => ?_
  refine (measures_number _ _).bind_of fun limit => ?_
  refine .optional (measures_take _ _) ?_
  refine (measures_optionalMember _ _ _ _).bind_of fun symbologyIn => ?_
  refine (measures_number _ _).bind_of fun code => ?_
  refine (measures_member _ code).bind_of fun symbologyOut => ?_
  refine (measures_number _ _).bind_of fun stamped => ?_
  refine (measures_symbolWidth version).bind_of fun width => ?_
  refine (measures_take _ _).bind_of fun reserved => ?_
  refine (measures_number _ _).bind_of fun definitionLength => .guarded ?_
  refine (measures_texts _ _).bind_of fun symbols => ?_
  refine (measures_texts _ _).bind_of fun partiallyFound => ?_
  refine (measures_texts _ _).bind_of fun notFound => ?_
  refine (measures_number _ _).bind_of fun mappingCount => ?_
  refine (measures_mappings _ _ _).bind_of fun mappings => .pure ?_
  have fixed : metadataFixedSize = datasetWidth + 84 := rfl
  have versioned : (if version = 1 then 8 else 0) + (if version = 1 then 0 else 2)
      + reservedSize version = 55 := by
    unfold reservedSize
    split <;> rfl
  simp only [Metadata.fieldsSize, Nat.add_mul]
  omega

end BlockReader

/-! ## Metadata of a block -/

section Decoded

variable {version : UInt8} {block : Bytes} {metadata : Metadata}

/-- In a version that can be read, metadata is what the reader of a block gives. -/
theorem decodeMetadata_eq_bind (supported : isSupported version) (bytes : Bytes) :
    decodeMetadata version bytes =
      BlockReader.metadata version ⟨0, bytes⟩ >>= fun found => .ok found.1 := by
  rw [decodeMetadata, checkVersion, if_pos supported, ok_bind]
  rfl

/-- A block begins with all the bytes that are taken for its metadata. -/
theorem exists_whole_of_decodeMetadata (accepted : decodeMetadata version block = .ok metadata) :
    ∃ bytes later, block = bytes ++ later ∧ bytes.length = metadata.fieldsSize ∧
      BlockReader.TakesWhole (BlockReader.metadata version) bytes metadata := by
  obtain ⟨-, after, read⟩ := read_of_decodeMetadata accepted
  obtain ⟨bytes, split, size, whole⟩ := BlockReader.measures_metadata version _ _ _ read
  rw [Nat.zero_add] at size
  exact ⟨bytes, after.rest, split, size.symm, whole⟩

theorem fieldsSize_le_of_decodeMetadata
    (accepted : decodeMetadata version block = .ok metadata) :
    metadata.fieldsSize ≤ block.length := by
  obtain ⟨bytes, later, rfl, size, -⟩ := exists_whole_of_decodeMetadata accepted
  rw [← size, List.length_append]
  exact Nat.le_add_right _ _

end Decoded

/-- The number of bytes that are read for metadata, part by part. -/
theorem Metadata.fieldsSize_eq (metadata : Metadata) :
    metadata.fieldsSize =
      104 + ([metadata.symbols, metadata.partiallyFound, metadata.notFound].map
          fun texts => 4 + metadata.symbolWidth * texts.length).sum
        + 4 + (metadata.mappings.map fun mapping => metadata.symbolWidth + 4
          + (8 + metadata.symbolWidth) * mapping.intervals.length).sum := by
  have sizes : SymbolMapping.size metadata.symbolWidth = fun mapping =>
      metadata.symbolWidth + 4 + (8 + metadata.symbolWidth) * mapping.intervals.length := by
    funext mapping
    rw [SymbolMapping.size, Nat.mul_comm]
  have fixed : metadataFixedSize = 100 := rfl
  simp only [fieldsSize, sizes, fixed, Nat.add_mul, List.map_cons, List.map_nil, List.sum_cons,
    List.sum_nil, Nat.mul_comm metadata.symbolWidth]
  omega

/-- Metadata is read from exactly as many bytes as its lists account for.  A block that begins
with the same bytes has the same metadata, and a block that is cut anywhere in them ends too
early for the field that it is cut in. -/
theorem decodeMetadata_extent (version : UInt8) (block : Bytes) (metadata : Metadata)
    (accepted : decodeMetadata version block = .ok metadata) :
    ∃ size, size = 104 + ([metadata.symbols, metadata.partiallyFound, metadata.notFound].map
          fun texts => 4 + metadata.symbolWidth * texts.length).sum
        + 4 + (metadata.mappings.map fun mapping => metadata.symbolWidth + 4
          + (8 + metadata.symbolWidth) * mapping.intervals.length).sum ∧
      size ≤ block.length ∧
      (∀ other : Bytes, other.take size = block.take size →
        decodeMetadata version other = .ok metadata) ∧
      ∀ count < size, ∃ field needed offset,
        decodeMetadata version (block.take count) =
          .error (.truncated field needed offset count) ∧
        offset ≤ count ∧ count < offset + needed := by
  have supported := (version_of_decodeMetadata accepted).1
  have atMost := fieldsSize_le_of_decodeMetadata accepted
  obtain ⟨bytes, later, rfl, size, whole⟩ := exists_whole_of_decodeMetadata accepted
  refine ⟨metadata.fieldsSize, metadata.fieldsSize_eq, atMost, ?_, ?_⟩
  · intro other same
    rw [← size, List.take_left] at same
    have begins := calc
      other = other.take bytes.length ++ other.drop bytes.length :=
        (List.take_append_drop bytes.length other).symm
      _ = bytes ++ other.drop bytes.length := by rw [same]
    rw [begins, decodeMetadata_eq_bind supported, whole.reads, ok_bind]
  · intro count short
    rw [← size] at short
    have early := (whole.cut 0 count short).bind fun found => Except.ok found.1
    rw [Nat.zero_add] at early
    rw [List.take_append_of_le_length short.le, decodeMetadata_eq_bind supported]
    exact early

/-- The block of one day is read when bytes follow it, and is refused when it is cut in its
last symbol. -/
theorem decodeMetadata_extent_ofOneDay :
    decodeMetadata 2 Metadata.ofOneDay.fieldBytes = .ok .ofOneDay ∧
      decodeMetadata 2 (Metadata.ofOneDay.fieldBytes ++ [1, 2, 3]) = .ok .ofOneDay ∧
      ∃ field needed offset,
        decodeMetadata 2 (Metadata.ofOneDay.fieldBytes.take 165) =
          .error (.truncated field needed offset 165) ∧
        offset ≤ 165 ∧ 165 < offset + needed := by
  have accepted : decodeMetadata 2 Metadata.ofOneDay.fieldBytes = .ok .ofOneDay :=
    Metadata.isStorable_ofOneDay.decodeMetadata_fieldBytes
  obtain ⟨size, size_eq, atMost, follows, cut⟩ := decodeMetadata_extent 2 _ _ accepted
  have all : size = 167 := size_eq
  refine ⟨accepted, ?_, cut 165 (by omega)⟩
  apply follows
  exact List.take_append_of_le_length atMost

end TickWire
