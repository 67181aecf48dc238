import Mathlib.Data.List.Forall2
import TickWire.Proofs.Metadata.Reader
import TickWire.Proofs.Stream.Framing

/-!
# Reading files

A metadata block that the decoders of its two parts accept is read from every steady
source that begins with it, and the records are read from where it ends.  A file of a block
and whole frames decodes to metadata and to what each frame decodes to on its own, and then
ends.
-/

namespace TickWire

/-! ## Preludes -/

/-- The prelude of a version and a number of bytes. -/
def preludeBytes (version : UInt8) (length : Nat) : Bytes :=
  formatLetters ++ [version] ++ LittleEndian.encode 4 length

section Prelude

variable {version : UInt8} (supported : isSupported version = true)
include supported

/-- Of a version that can be read, only the announced number decides whether a prelude is
accepted. -/
theorem decodePrelude_preludeBytes {length : Nat} (small : length < LittleEndian.capacity 4) :
    decodePrelude (preludeBytes version length) =
      if length < metadataFixedSize then .error (.invalidLength (.metadataBelowFixed length))
      else if metadataMaximumSize < length then
        .error (.invalidLength (.metadataBeyondMaximum length))
      else .ok (version, length) := by
  have letters : (preludeBytes version length).take 3 = formatLetters := rfl
  have behind : ((preludeBytes version length).drop 3).headD 0 = version := rfl
  have announced : LittleEndian.decode (((preludeBytes version length).drop 4).take 4) =
      length := by
    change LittleEndian.decode ((LittleEndian.encode 4 length).take 4) = length
    rw [List.take_of_length_le (by simp), LittleEndian.decode_encode, Nat.mod_eq_of_lt small]
  simp only [decodePrelude, letters, behind, announced, checkVersion, supported, if_true,
    ok_bind, ne_eq, not_true_eq_false, if_false]
  split
  next => rfl
  next => split <;> rfl

theorem startsAsFile_preludeBytes (length : Nat) (later : Bytes) :
    startsAsFile (preludeBytes version length ++ later) = true :=
  supported

end Prelude

/-! ## Blocks -/

/-- A prelude and the fields it announces, both of which can be decoded. -/
structure MetadataBlock where
  start : Bytes
  fields : Bytes
  version : UInt8
  metadata : Metadata
  length_start : start.length = preludeSize
  start_accepted : decodePrelude start = .ok (version, fields.length)
  fields_accepted : decodeMetadata version fields = .ok metadata

namespace MetadataBlock

/-- The bytes of a block. -/
def bytes (block : MetadataBlock) : Bytes := block.start ++ block.fields

theorem version_eq (block : MetadataBlock) : block.metadata.version = block.version :=
  (version_of_decodeMetadata block.fields_accepted).2

theorem checkVersion_eq (block : MetadataBlock) : checkVersion block.version = .ok () := by
  rw [checkVersion, if_pos (version_of_decodeMetadata block.fields_accepted).1]

theorem version_le (block : MetadataBlock) : block.version ≤ formatVersion := by
  have supported := (version_of_decodeMetadata block.fields_accepted).1
  exact (of_decide_eq_true supported).2

/-- The bytes of a block can be read in only one way. -/
theorem eq_of_bytes {block other : MetadataBlock} (same : block.bytes = other.bytes) :
    block = other := by
  have lengths : block.start.length = other.start.length :=
    block.length_start.trans other.length_start.symm
  obtain ⟨starts, fields⟩ := List.append_inj same lengths
  have announced := block.start_accepted.symm.trans (starts ▸ other.start_accepted)
  have versions : block.version = other.version := congrArg Prod.fst (Except.ok.inj announced)
  have decoded := block.fields_accepted
  rw [versions, fields, other.fields_accepted] at decoded
  cases block
  cases other
  cases starts
  cases fields
  cases versions
  cases decoded
  rfl

/-- A file that begins with a block is not taken for a compressed one. -/
theorem startsAsFile (block : MetadataBlock) (later : Bytes) :
    startsAsFile (block.bytes ++ later) = true := by
  have threeLetters : 3 ≤ block.start.length := by
    rw [block.length_start]
    decide
  rw [MetadataBlock.bytes, List.append_assoc, TickWire.startsAsFile,
    List.take_append_of_le_length threeLetters, List.drop_append_of_le_length threeLetters]
  have accepted := block.start_accepted
  unfold decodePrelude at accepted
  split at accepted
  next => cases accepted
  next letters =>
    obtain ⟨_, checked, _⟩ := ok_of_bind accepted
    have nonempty : block.start.drop 3 ≠ [] := by
      rw [← List.length_pos_iff, List.length_drop, block.length_start]
      decide
    obtain ⟨version, others, behind⟩ := List.exists_cons_of_ne_nil nonempty
    rw [behind] at checked ⊢
    unfold checkVersion at checked
    split at checked
    next supported =>
      have sameLetters : block.start.take 3 = formatLetters := not_not.mp letters
      rw [sameLetters, beq_self_eq_true, Bool.true_and]
      exact supported
    next => cases checked

end MetadataBlock

/-- A prelude and as many bytes as it announces, whether or not they can be decoded. -/
structure IsWholeBlock (start fields : Bytes) : Prop where
  length_start : start.length = preludeSize
  announced : ∀ {version : UInt8} {length : Nat},
    decodePrelude start = .ok (version, length) → length = fields.length

/-- Why a prelude and the fields behind it cannot be decoded. -/
inductive IsRefusedBlock (start fields : Bytes) : Error → Prop where
  | start {error : Error} (refused : decodePrelude start = .error error) :
      IsRefusedBlock start fields error
  | fields {version : UInt8} {error : Error}
      (accepted : decodePrelude start = .ok (version, fields.length))
      (refused : decodeMetadata version fields = .error error) :
      IsRefusedBlock start fields error

/-- A whole block is decoded or refused. -/
theorem IsWholeBlock.decoded_or_refused {start fields : Bytes}
    (whole : IsWholeBlock start fields) :
    (∃ block : MetadataBlock, block.start = start ∧ block.fields = fields) ∨
      ∃ error, IsRefusedBlock start fields error := by
  cases prelude : decodePrelude start with
  | error error => exact .inr ⟨error, .start prelude⟩
  | ok announced =>
      obtain ⟨version, length⟩ := announced
      obtain rfl := whole.announced prelude
      cases metadata : decodeMetadata version fields with
      | error error => exact .inr ⟨error, .fields prelude metadata⟩
      | ok metadata' =>
          exact .inl ⟨⟨start, fields, version, metadata', whole.length_start, prelude, metadata⟩,
            rfl, rfl⟩

variable {source : Source}

/-- Reading metadata takes exactly the block. -/
theorem readMetadata_block (steady : source.IsSteady) (block : MetadataBlock) {later : Bytes}
    (holds : source.rest = block.bytes ++ later) :
    readMetadata source = (.ok block.metadata, source.advance block.bytes.length) := by
  rw [MetadataBlock.bytes, List.append_assoc] at holds
  have readStart := Source.readExact_of_rest_eq steady block.start holds
  rw [block.length_start] at readStart
  have behind : (source.advance preludeSize).rest = block.fields ++ later := by
    simp [holds, ← block.length_start]
  have readFields := Source.readExact_of_rest_eq (steady.advance preludeSize) block.fields behind
  simp only [readMetadata, readStart, block.start_accepted, readFields, block.fields_accepted,
    Source.advance_advance, MetadataBlock.bytes, List.length_append, block.length_start]

theorem exists_readMetadata_block (steady : source.IsSteady) (block : MetadataBlock)
    {later : Bytes} (holds : source.rest = block.bytes ++ later) :
    ∃ after, readMetadata source = (.ok block.metadata, after) ∧ after.rest = later ∧
      after.position = source.position + block.bytes.length := by
  refine ⟨_, readMetadata_block steady block holds, ?_, rfl⟩
  rw [Source.rest_advance, holds]
  exact List.drop_left

/-- A block that is refused is the end of its file. -/
theorem FileDecoder.ofSource_refused (steady : source.IsSteady) {start fields later : Bytes}
    (length : start.length = preludeSize) {error : Error}
    (refused : IsRefusedBlock start fields error)
    (holds : source.rest = start ++ (fields ++ later)) (policy : UpgradePolicy) :
    FileDecoder.ofSource source policy = .error error := by
  have readStart := Source.readExact_of_rest_eq steady start holds
  rw [length] at readStart
  have behind : (source.advance preludeSize).rest = fields ++ later := by
    simp [holds, ← length]
  have readFields := Source.readExact_of_rest_eq (steady.advance preludeSize) fields behind
  cases refused with
  | start refused => simp only [ofSource, readMetadata, readStart, refused]
  | fields accepted refused =>
      simp only [ofSource, readMetadata, readStart, accepted, readFields, refused]

/-- The records of a file begin behind its metadata block. -/
theorem FileDecoder.ofSource_block (steady : source.IsSteady) (block : MetadataBlock)
    {later : Bytes} (holds : source.rest = block.bytes ++ later) (policy : UpgradePolicy) :
    FileDecoder.ofSource source policy = .ok {
      metadata := block.metadata.upgrade policy
      records := {
        source := source.advance block.bytes.length
        version := block.version
        policy
        stamped := block.metadata.stamped } } := by
  simp only [ofSource, readMetadata_block steady block holds, RecordDecoder.ofVersion,
    block.version_eq, block.checkVersion_eq, ok_bind]
  rfl

/-! ## Whole files -/

/-- Each frame decodes on its own to the frame of the other list in its place. -/
def Frame.DecodeTo (version : UInt8) (policy : UpgradePolicy) (stamped : Bool) :
    List Frame → List Frame → Prop :=
  List.Forall₂ fun frame found => frame.decodeAlone version policy stamped = .ok found

namespace Frame

variable {version : UInt8} {policy : UpgradePolicy} {stamped : Bool} {frames : List Frame}

theorem exists_decodeTo
    (decode : ∀ frame ∈ frames, ∃ found, frame.decodeAlone version policy stamped = .ok found) :
    ∃ found, DecodeTo version policy stamped frames found := by
  induction frames with
  | nil => exact ⟨[], .nil⟩
  | cons frame others ih =>
      rw [List.forall_mem_cons] at decode
      obtain ⟨first, firstFound⟩ := decode.1
      obtain ⟨following, othersFound⟩ := ih decode.2
      exact ⟨first :: following, .cons firstFound othersFound⟩

/-- Frames of a version that the policy does not upgrade stay as they are. -/
theorem decodeTo_self (known : version ≤ formatVersion)
    (settled : version ≠ 1 ∨ policy ≠ .upgrade) (stamped : Bool) (frames : List Frame) :
    DecodeTo version policy stamped frames frames :=
  List.forall₂_same.mpr fun frame _ => frame.decodeAlone_of_settled known settled stamped

theorem DecodeTo.eq_of_asIs {found : List Frame} (known : version ≤ formatVersion)
    (decode : DecodeTo version .asIs stamped frames found) : found = frames := by
  induction decode with
  | nil => rfl
  | cons decodeFirst _ ih =>
      rw [decodeAlone_asIs known] at decodeFirst
      rw [ih, Except.ok.inj decodeFirst]

end Frame

namespace RecordDecoder

/-- The results of calls that give frames, one by one, and then find the end. -/
def resultsToEnd (frames : List Frame) : List (Except Error (Option Frame)) :=
  frames.map (fun frame => .ok (some frame)) ++ [.ok none]

theorem resultsToEnd_cons (frame : Frame) (others : List Frame) :
    resultsToEnd (frame :: others) = .ok (some frame) :: resultsToEnd others := rfl

theorem nextMany_to_end {decoder : RecordDecoder} (steady : decoder.source.IsSteady)
    {frames found : List Frame}
    (decode : Frame.DecodeTo decoder.version decoder.policy decoder.stamped frames found)
    (holds : decoder.source.rest = Frame.concat frames) :
    (decoder.nextMany (found.length + 1)).1 = resultsToEnd found := by
  induction frames generalizing decoder found with
  | nil =>
      cases decode
      rw [List.length_nil, results_nextMany_succ, next_of_empty steady holds]
      rfl
  | cons frame others ih =>
      cases decode with
      | cons decodeFirst decodeOthers =>
          rw [Frame.concat_cons] at holds
          obtain ⟨after, next, moved⟩ := next_of_frame steady holds
          have behind : after.source.rest = Frame.concat others := by
            rw [moved.source_eq]
            simp [holds]
          rw [← moved.version_eq, ← moved.policy_eq, ← moved.stamped_eq] at decodeOthers
          have following := ih (moved.source_eq ▸ steady.advance _) decodeOthers behind
          rw [decodeFirst, map_ok] at next
          rw [List.length_cons, results_nextMany_succ, next, following, resultsToEnd_cons]

end RecordDecoder

/-- A source decodes to metadata, frames and then its end. -/
def FileDecoder.DecodesTo (source : Source) (policy : UpgradePolicy) (metadata : Metadata)
    (frames : List Frame) : Prop :=
  ∃ decoder, FileDecoder.ofSource source policy = .ok decoder ∧ decoder.metadata = metadata ∧
    (decoder.records.nextMany (frames.length + 1)).1 = RecordDecoder.resultsToEnd frames

/-- A block and whole frames decode to the upgraded metadata and to what each frame decodes
to on its own. -/
theorem FileDecoder.decodesTo_of_block (steady : source.IsSteady) (block : MetadataBlock)
    {policy : UpgradePolicy} {frames found : List Frame}
    (holds : source.rest = block.bytes ++ Frame.concat frames)
    (decode : Frame.DecodeTo block.version policy block.metadata.stamped frames found) :
    DecodesTo source policy (block.metadata.upgrade policy) found := by
  refine ⟨_, ofSource_block steady block holds policy, rfl, ?_⟩
  apply RecordDecoder.nextMany_to_end (steady.advance _) decode
  simp [holds]

end TickWire
