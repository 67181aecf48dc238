import TickWire.Proofs.Outcome
import TickWire.Proofs.Record.Codec

/-!
# Views of frames

What a frame at the start of untrusted bytes can be read as.  Four tables decide it: the
tags of each kind, the kind that a tag is read as, the kind that it is dispatched to, and
the size that belongs to it.  They agree for every tag, so a frame is never read as a type
that is longer than the frame, and never as two types of the current version.
-/

namespace TickWire

/-! ## Tags and their bytes -/

namespace RecordTag

@[simp] theorem ofByte?_byte (tag : RecordTag) : ofByte? tag.byte = some tag := by
  cases tag <;> rfl

theorem byte_of_ofByte? {raw : UInt8} {tag : RecordTag} (named : ofByte? raw = some tag) :
    tag.byte = raw := by
  rw [byte, Coded.code_of_ofCode?_eq_some named]
  exact UInt8.ofNat_toNat

end RecordTag

/-! ## The tables -/

namespace RecordKind

/-- The byte of a tag names the kinds that have the tag. -/
theorem accepts_iff_mem_tags {kind : RecordKind} {raw : UInt8} {tag : RecordTag}
    (named : RecordTag.ofByte? raw = some tag) :
    kind.accepts raw = true ↔ tag ∈ kind.tags := by
  rw [accepts, List.any_eq_true]
  constructor
  · rintro ⟨other, member, same⟩
    have bytes : other.byte = raw := eq_of_beq same
    have tags : some other = some tag := by
      rw [← named, ← bytes, RecordTag.ofByte?_byte]
    cases tags
    exact member
  · intro member
    exact ⟨tag, member, beq_iff_eq.mpr (RecordTag.byte_of_ofByte? named)⟩

theorem exists_tag_of_accepts {kind : RecordKind} {raw : UInt8}
    (accepted : kind.accepts raw = true) :
    ∃ tag ∈ kind.tags, RecordTag.ofByte? raw = some tag := by
  obtain ⟨tag, member, same⟩ := List.any_eq_true.mp accepted
  refine ⟨tag, member, ?_⟩
  rw [← eq_of_beq same, RecordTag.ofByte?_byte]

/-- A byte that is no tag's names no kind. -/
theorem accepts_of_unknown (kind : RecordKind) {raw : UInt8}
    (unknown : RecordTag.ofByte? raw = none) : kind.accepts raw = false := by
  rw [accepts, List.any_eq_false]
  intro tag member same
  rw [← eq_of_beq same, RecordTag.ofByte?_byte] at unknown
  cases unknown

/-- Of the kinds of the current version, a tag is among the tags of the one that it is
read as. -/
theorem mem_tags_iff_ofTag {kind : RecordKind} (isCurrent : kind.isLegacy = false)
    (tag : RecordTag) : tag ∈ kind.tags ↔ kind = ofTag tag := by
  cases kind with
  | instrumentDefV1 | errorV1 | symbolMappingV1 | systemV1 => cases isCurrent
  | _ => cases tag <;> simp [tags, ofTag]

theorem isLegacy_ofTag (tag : RecordTag) : (ofTag tag).isLegacy = false := by
  cases tag <;> rfl

/-- A tag is dispatched to the kind that it is read as. -/
theorem dispatched_eq_ofTag (tag : RecordTag) : dispatched tag = ofTag tag := by
  cases tag <;> rfl

end RecordKind

/-- The size that belongs to a tag is the size of what it is read as. -/
theorem RecordTag.recordSize_eq_size (tag : RecordTag) :
    tag.recordSize = RecordType.size ⟨RecordKind.ofTag tag, false⟩ := by
  cases tag <;> rfl

/-! ## Records that are frames -/

namespace Record

variable {type : RecordType}

/-- A record that says what it is: its tag names its type, and its length is the size of
the type in units of four bytes. -/
structure IsProper (record : Record type) : Prop where
  accepted : type.accepts record.header.rtype
  length_eq : record.header.length.toNat = type.size / 4

namespace IsProper

variable {record : Record type}

theorem sized (proper : record.IsProper) :
    Header.sizeOfLength record.header.length = type.size := by
  have whole := type.sizeOfLength_lengthOfSize
  rw [Header.sizeOfLength] at whole ⊢
  rw [proper.length_eq]
  omega

/-- A proper record as a frame. -/
def frame (proper : record.IsProper) : Frame := record.toFrame proper.sized

theorem header_frame (proper : record.IsProper) : proper.frame.header = record.header := by
  change Header.ofBytes (_ ++ _ ++ _) = _
  rw [List.append_assoc, Header.isCodec.decode_append]

/-- The frame of a proper record is read as every type that its tag names and that is not
longer. -/
theorem get?_frame_of_le (proper : record.IsProper) {other : RecordType}
    (accepted : other.accepts record.header.rtype = true) (fits : other.size ≤ type.size) :
    proper.frame.get? other = some (Record.ofBytes other record.toBytes) := by
  have tagged : proper.frame.has other = true := by
    rw [Frame.has, proper.header_frame]
    exact accepted
  have long : other.size ≤ proper.frame.size :=
    Nat.le_trans fits (Nat.le_of_eq record.length_toBytes.symm)
  exact if_pos ⟨tagged, long⟩

/-- The frame of a proper record is read as the record. -/
theorem get?_frame (proper : record.IsProper) : proper.frame.get? type = some record := by
  rw [proper.get?_frame_of_le proper.accepted (Nat.le_refl _),
    (isCodec type).decode_encode record]

end IsProper

end Record

/-! ## Frames at the start of bytes -/

namespace Frame

variable {address : Nat} {bytes : Bytes} {frame : Frame}

/-- Aligned bytes with a header that announces a size which is at least that of the header
and within the bytes. -/
def IsFramed (address : Nat) (bytes : Bytes) : Prop :=
  headerSize ≤ bytes.length ∧ address % recordAlignment = 0 ∧
    headerSize ≤ Header.sizeOfLength (bytes.headD 0) ∧
    Header.sizeOfLength (bytes.headD 0) ≤ bytes.length

/-- A frame is found only in bytes like that, and is as much of them as they announce. -/
theorem isFramed_of_ofBytes (found : ofBytes address bytes = .ok frame) :
    IsFramed address bytes ∧
      frame.bytes = bytes.take (Header.sizeOfLength (bytes.headD 0)) := by
  unfold ofBytes at found
  split at found
  · cases found
  next enough =>
    split at found
    · cases found
    next aligned =>
      dsimp only at found
      split at found
      · cases found
      next header =>
        split at found
        · cases found
        next within =>
          cases found
          exact ⟨⟨Nat.le_of_not_lt enough, Decidable.of_not_not aligned,
            Nat.le_of_not_lt header, Nat.le_of_not_lt within⟩, rfl⟩

theorem exists_ofBytes_iff (address : Nat) (bytes : Bytes) :
    (∃ frame, ofBytes address bytes = .ok frame) ↔ IsFramed address bytes := by
  constructor
  · rintro ⟨frame, found⟩
    exact (isFramed_of_ofBytes found).1
  · rintro ⟨enough, aligned, header, within⟩
    unfold ofBytes
    rw [if_neg (Nat.not_lt.mpr enough), if_neg (fun unaligned => unaligned aligned)]
    dsimp only
    rw [dif_neg (Nat.not_lt.mpr header), dif_neg (Nat.not_lt.mpr within)]
    exact ⟨_, rfl⟩

theorem size_of_ofBytes (found : ofBytes address bytes = .ok frame) :
    frame.size = Header.sizeOfLength (bytes.headD 0) := by
  obtain ⟨⟨-, -, -, within⟩, start⟩ := isFramed_of_ofBytes found
  rw [size, start, List.length_take, Nat.min_eq_left within]

/-! ## Reading a frame as a type -/

theorem get?_eq_some_iff {type : RecordType} {record : Record type} :
    frame.get? type = some record ↔
      (frame.has type = true ∧ type.size ≤ frame.size) ∧
        Record.ofBytes type frame.bytes = record := by
  rw [get?, Option.ite_none_right_eq_some, Option.some.injEq]

theorem isSome_get? {type : RecordType} :
    (frame.get? type).isSome = true ↔ frame.has type = true ∧ type.size ≤ frame.size := by
  rw [get?]
  split <;> simp_all

/-- A record that a frame is read as is the start of the frame, of the size of its type. -/
theorem toBytes_of_get? {type : RecordType} {record : Record type}
    (found : frame.get? type = some record) :
    record.toBytes = frame.bytes.take type.size := by
  obtain ⟨⟨-, fits⟩, rfl⟩ := get?_eq_some_iff.mp found
  exact (Record.isCodec type).encode_decode frame.bytes fits

/-- A record that is read from a frame at the start of bytes is the one that is read from
the bytes, of which it does not look further than the size of its type. -/
theorem get?_of_ofBytes (found : ofBytes address bytes = .ok frame) {type : RecordType}
    {record : Record type} (read : frame.get? type = some record) :
    record = Record.ofBytes type bytes ∧ record.toBytes = bytes.take type.size ∧
      type.size ≤ bytes.length := by
  have fits : type.size ≤ frame.size := (get?_eq_some_iff.mp read).1.2
  have written : record.toBytes = bytes.take type.size := by
    rw [toBytes_of_get? read, (isFramed_of_ofBytes found).2, List.take_take,
      ← size_of_ofBytes found, Nat.min_eq_left fits]
  have within : type.size ≤ bytes.length := by
    rw [size_of_ofBytes found] at fits
    exact Nat.le_trans fits (isFramed_of_ofBytes found).1.2.2.2
  constructor
  · calc
      record = Record.ofBytes type (record.toBytes ++ bytes.drop type.size) :=
        ((Record.isCodec type).decode_append record _).symm
      _ = Record.ofBytes type bytes := by rw [written, List.take_append_drop]
  · exact ⟨written, within⟩

theorem getLong_of_get? {type : RecordType} {record : Record type}
    (read : frame.get? type = some record) : frame.getLong type = .ok record := by
  rw [getLong, read]

/-- A frame that is shorter than a type is refused with the size that it has. -/
theorem getLong_of_lt {type : RecordType} (short : frame.size < type.size) :
    frame.getLong type = .error (.recordTooShort frame.size type.path) := by
  have unread : frame.get? type = none := by
    rw [get?]
    apply if_neg
    intro conditions
    exact Nat.not_le.mpr short conditions.2
  rw [getLong, unread]

/-! ## Tags of frames -/

theorem rtype_header_of_ofBytes (found : ofBytes address bytes = .ok frame) :
    frame.header.rtype = bytes.getD 1 0 := by
  obtain ⟨⟨-, -, header, within⟩, start⟩ := isFramed_of_ofBytes found
  have second : 1 < Header.sizeOfLength (bytes.headD 0) :=
    Nat.lt_of_lt_of_le (by decide) header
  have drop : ∀ listed : Bytes, (listed.drop 1).headD 0 = listed.getD 1 0 := by
    intro listed
    cases listed with
    | nil => rfl
    | cons first rest => cases rest <;> rfl
  rw [Frame.header, Header.ofBytes, drop, start, List.getD_eq_getElem?_getD,
    List.getElem?_take_of_lt second, List.getD_eq_getElem?_getD]

/-- A tag stands for a kind in a frame: the frame is of no other kind of the current
version, it is read as this kind and dispatched to it, and the size that belongs to the tag
decides whether both succeed or both refuse the frame as too short. -/
structure StandsFor (frame : Frame) (tag : RecordTag) (kind : RecordKind) : Prop where
  isLegacy_eq : kind.isLegacy = false
  has_iff : ∀ other : RecordKind, other.isLegacy = false →
    (frame.has ⟨other, false⟩ = true ↔ other = kind)
  recordSize_eq : tag.recordSize = RecordType.size ⟨kind, false⟩
  read : tag.recordSize ≤ frame.size →
    ∃ record, frame.get? ⟨kind, false⟩ = some record ∧ frame.current = .ok ⟨_, record⟩ ∧
      ∀ {α : Type} (handle : (type : RecordType) → Record type → α),
        frame.dispatch handle = .ok (handle _ record)
  refused : frame.size < tag.recordSize →
    frame.current = .error (.recordTooShort frame.size (RecordType.path ⟨kind, false⟩)) ∧
      ∀ {α : Type} (handle : (type : RecordType) → Record type → α),
        frame.dispatch handle =
          .error (.recordTooShort frame.size (RecordType.path ⟨kind, false⟩))

/-- A frame is dispatched to what it is read as. -/
theorem current_eq_dispatch (frame : Frame) :
    frame.current = frame.dispatch fun type record => ⟨type, record⟩ := by
  unfold current dispatch
  congr
  funext tag
  rw [RecordKind.dispatched_eq_ofTag]

theorem dispatch_of_known {α : Type} {tag : RecordTag}
    (known : RecordTag.ofByte? frame.header.rtype = some tag)
    (handle : (type : RecordType) → Record type → α) :
    frame.dispatch handle =
      (frame.getLong ⟨RecordKind.ofTag tag, false⟩).map (handle _) := by
  have tagged : frame.header.tag = .ok tag := by rw [Header.tag, known]
  rw [dispatch, tagged, ok_bind, RecordKind.dispatched_eq_ofTag]
  rfl

theorem dispatch_of_unknown {α : Type}
    (unknown : RecordTag.ofByte? frame.header.rtype = none)
    (handle : (type : RecordType) → Record type → α) :
    frame.dispatch handle = .error (Error.unknownByte RecordTag frame.header.rtype) := by
  rw [dispatch, Header.tag, unknown]
  rfl

theorem current_of_get? {tag : RecordTag}
    (known : RecordTag.ofByte? frame.header.rtype = some tag)
    {record : Record ⟨RecordKind.ofTag tag, false⟩}
    (found : frame.get? ⟨RecordKind.ofTag tag, false⟩ = some record) :
    frame.current = .ok ⟨_, record⟩ := by
  rw [current_eq_dispatch, dispatch_of_known known, getLong_of_get? found, map_ok]

/-- The record of the current version that a frame is read as is a record that the frame is
read as. -/
theorem get?_of_current {owned : SomeRecord} (read : frame.current = .ok owned) :
    frame.get? owned.type = some owned.record := by
  obtain ⟨tag, -, typed⟩ := ok_of_bind read
  obtain ⟨record, long, same⟩ := ok_of_bind typed
  cases same
  unfold getLong at long
  split at long
  next found =>
    cases long
    exact found
  next => cases long

/-- A tag stands for the kind that frames with it are read as. -/
theorem standsFor_ofTag {tag : RecordTag}
    (known : RecordTag.ofByte? frame.header.rtype = some tag) :
    frame.StandsFor tag (RecordKind.ofTag tag) where
  isLegacy_eq := RecordKind.isLegacy_ofTag tag
  has_iff := by
    intro other isCurrent
    rw [has, RecordType.accepts, RecordKind.accepts_iff_mem_tags known]
    exact RecordKind.mem_tags_iff_ofTag isCurrent tag
  recordSize_eq := tag.recordSize_eq_size
  read := by
    intro long
    rw [tag.recordSize_eq_size] at long
    have accepted : frame.has ⟨RecordKind.ofTag tag, false⟩ = true :=
      (RecordKind.accepts_iff_mem_tags known).mpr
        ((RecordKind.mem_tags_iff_ofTag (RecordKind.isLegacy_ofTag tag) tag).mpr rfl)
    have found : frame.get? ⟨RecordKind.ofTag tag, false⟩ = some _ :=
      get?_eq_some_iff.mpr ⟨⟨accepted, long⟩, rfl⟩
    apply Exists.intro _
    constructor
    · exact found
    · constructor
      · exact current_of_get? known found
      · intro α handle
        rw [dispatch_of_known known, getLong_of_get? found, map_ok]
  refused := by
    intro short
    rw [tag.recordSize_eq_size] at short
    constructor
    · rw [current_eq_dispatch, dispatch_of_known known, getLong_of_lt short, map_error]
    · intro α handle
      rw [dispatch_of_known known, getLong_of_lt short, map_error]

/-- A frame without a tag is of no type, and what is said of it names the byte that is no
tag. -/
structure StandsForNothing (frame : Frame) : Prop where
  has_eq_false : ∀ type, frame.has type = false
  current_eq : frame.current = .error (Error.unknownByte RecordTag frame.header.rtype)
  dispatch_eq : ∀ {α : Type} (handle : (type : RecordType) → Record type → α),
    frame.dispatch handle = .error (Error.unknownByte RecordTag frame.header.rtype)

theorem standsForNothing {frame : Frame}
    (unknown : RecordTag.ofByte? frame.header.rtype = none) : frame.StandsForNothing := by
  constructor
  · intro type
    exact type.kind.accepts_of_unknown unknown
  · rw [current_eq_dispatch, dispatch_of_unknown unknown]
  · exact dispatch_of_unknown unknown

/-- Views of untrusted bytes are safe, and the tables agree.  A frame is found exactly in
aligned bytes that hold the header and the size that they announce; it can be read as
exactly the types that accept its tag and are not longer than it, each of which is then
the start of the bytes; and its tag either stands for one kind of the current version or
for nothing. -/
theorem views_are_safe (address : Nat) (bytes : Bytes) :
    ((∃ frame, ofBytes address bytes = .ok frame) ↔
      headerSize ≤ bytes.length ∧ address % recordAlignment = 0 ∧
        headerSize ≤ Header.sizeOfLength (bytes.headD 0) ∧
        Header.sizeOfLength (bytes.headD 0) ≤ bytes.length) ∧
    ∀ frame, ofBytes address bytes = .ok frame →
      frame.size = Header.sizeOfLength (bytes.headD 0) ∧
      (∀ type : RecordType, frame.has type = type.accepts (bytes.getD 1 0) ∧
        ((frame.get? type).isSome = true ↔
          type.accepts (bytes.getD 1 0) = true ∧
            type.size ≤ Header.sizeOfLength (bytes.headD 0)) ∧
        ∀ record, frame.get? type = some record →
          record = Record.ofBytes type bytes ∧ record.toBytes = bytes.take type.size ∧
            type.size ≤ bytes.length) ∧
      (∀ tag, RecordTag.ofByte? (bytes.getD 1 0) = some tag →
        ∃ kind, frame.StandsFor tag kind) ∧
      (RecordTag.ofByte? (bytes.getD 1 0) = none → frame.StandsForNothing) := by
  constructor
  · exact exists_ofBytes_iff address bytes
  · intro frame found
    have rtype := rtype_header_of_ofBytes found
    rw [← size_of_ofBytes found, ← rtype]
    constructor
    · rfl
    · constructor
      · intro type
        exact ⟨rfl, isSome_get?, fun record read => get?_of_ofBytes found read⟩
      · constructor
        · intro tag known
          exact ⟨RecordKind.ofTag tag, standsFor_ofTag known⟩
        · exact standsForNothing

/-- A trade with a time of sending is read as a trade without one as well. -/
theorem views_are_safe_stamped_trade :
    ∃ frame, ofBytes 8 (Record.initial ⟨.trade, true⟩).toBytes = .ok frame ∧
      (frame.get? ⟨.trade, true⟩).isSome = true ∧
      (frame.get? ⟨.trade, false⟩).isSome = true ∧
      (frame.get? ⟨.mbp1, false⟩).isSome = false ∧ ∃ kind, frame.StandsFor .mbp0 kind := by
  obtain ⟨framed, views⟩ := views_are_safe 8 (Record.initial ⟨.trade, true⟩).toBytes
  obtain ⟨frame, found⟩ := framed.mpr (by decide)
  obtain ⟨-, types, known, -⟩ := views frame found
  apply Exists.intro frame
  constructor
  · exact found
  · constructor
    · exact (types ⟨.trade, true⟩).2.1.mpr (by decide)
    · constructor
      · exact (types ⟨.trade, false⟩).2.1.mpr (by decide)
      · constructor
        · apply Bool.eq_false_iff.mpr
          intro read
          exact absurd ((types ⟨.mbp1, false⟩).2.1.mp read) (by decide)
        · exact known .mbp0 (by decide)

end Frame

end TickWire
