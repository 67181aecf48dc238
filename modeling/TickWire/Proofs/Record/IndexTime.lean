import TickWire.Proofs.Record.Legacy

/-!
# The time that orders records

A record is ordered by the time that it was received, if its layout has one, and otherwise by
the time of its event.  A frame finds its time through its tag, which names the layout of the
current version.  Both agree for every type but one: definitions of version 1 have a time of
receipt, yet their frames are too short for the current layout and fall back to the time of
the event.  Their upgrades are ordered as they were.
-/

namespace TickWire

/-- The name of the time that a record was received. -/
def receiptName : String := "ts_recv"

/-! ## Kinds -/

namespace RecordKind

variable {kind legacy target : RecordKind} {tag : RecordTag}

/-- The type of the field for the time of receipt, if a kind has one. -/
def receipt? (kind : RecordKind) : Option FieldType :=
  (kind.layout.field? receiptName).map (·.type)

/-- Every kind of version 1 has a tag, by which the current version names another kind. -/
theorem exists_legacyOfTag? (isLegacy : kind.isLegacy = true) :
    ∃ tag, legacyOfTag? tag = some (kind, ofTag tag) := by
  cases kind with
  | instrumentDefV1 => exact ⟨.instrumentDef, rfl⟩
  | errorV1 => exact ⟨.error, rfl⟩
  | symbolMappingV1 => exact ⟨.symbolMapping, rfl⟩
  | systemV1 => exact ⟨.system, rfl⟩
  | _ => cases isLegacy

theorem eq_ofTag_of_legacyOfTag? (changed : legacyOfTag? tag = some (legacy, target)) :
    target = ofTag tag := by
  cases tag <;> cases changed <;> rfl

/-- Records of version 1 are shorter than the current ones, even with a time of sending. -/
theorem size_lt_of_legacyOfTag? (changed : legacyOfTag? tag = some (legacy, target))
    (stamped : Bool) : RecordType.size ⟨legacy, stamped⟩ < RecordType.size ⟨target, false⟩ := by
  cases tag <;> cases changed <;> cases stamped <;> decide

/-- A kind has a time of receipt in both versions or in neither, in a field of the same
type, which carries information. -/
theorem receipt_of_legacyOfTag? (changed : legacyOfTag? tag = some (legacy, target)) :
    target.receipt? = legacy.receipt? ∧
      ∀ type ∈ legacy.receipt?, type.isPublic = true := by
  cases tag <;> cases changed <;> decide

/-- Of the kinds of version 1, definitions are the only one with a time of receipt. -/
theorem receipt_of_isLegacy (isLegacy : kind.isLegacy = true) (other : kind ≠ .instrumentDefV1) :
    kind.receipt? = none := by
  cases kind with
  | instrumentDefV1 => contradiction
  | errorV1 | symbolMappingV1 | systemV1 => decide
  | _ => cases isLegacy

end RecordKind

/-! ## Records -/

/-- A number is taken over as it is. -/
theorem FieldValue.IsKept.int?_eq {held now : FieldValue} (kept : held.IsKept now) :
    now.int? = held.int? := by
  cases kept <;> rfl

namespace Record

variable {type : RecordType}

theorem indexTime_eq_getD (record : Record type) :
    record.indexTime =
      ((record.int? receiptName).map fun time => UInt64.ofNat time.toNat).getD
        record.header.eventTime := by
  rw [indexTime, receiptName]
  cases record.int? "ts_recv" <;> rfl

theorem map_type_receipt (record : Record type) :
    (record.value? receiptName).map (·.type) = type.kind.receipt? :=
  record.map_type_value? receiptName

/-- Without a time of receipt, the time of the event counts. -/
theorem indexTime_of_none {record : Record type} (absent : type.kind.receipt? = none) :
    record.indexTime = record.header.eventTime := by
  rw [← record.map_type_receipt, Option.map_eq_none_iff] at absent
  rw [indexTime_eq_getD, int?, Values.int?, ← value?, absent]
  rfl

/-- The bytes of a record begin with those of the record without the time of sending. -/
theorem ofBytes_unstamped {kind : RecordKind} {stamped : Bool}
    (record : Record ⟨kind, stamped⟩) :
    Record.ofBytes ⟨kind, false⟩ record.toBytes = ⟨record.header, record.fields, ()⟩ := by
  have inner : record.toBytes =
      (⟨record.header, record.fields, ()⟩ : Record ⟨kind, false⟩).toBytes
        ++ SendTime.toBytes stamped record.sendTime := by
    simp [toBytes, SendTime.toBytes]
  rw [inner, (isCodec ⟨kind, false⟩).decode_append]

/-- An upgrade is ordered as what it was made of. -/
theorem IsUpgradeOf.indexTime_eq {legacy target : RecordKind} {stamped : Bool} {tag : RecordTag}
    {new : Record ⟨target, stamped⟩} {old : Record ⟨legacy, stamped⟩}
    (changed : RecordKind.legacyOfTag? tag = some (legacy, target))
    (upgrade : new.IsUpgradeOf old) : new.indexTime = old.indexTime := by
  obtain ⟨sameType, carrying⟩ := RecordKind.receipt_of_legacyOfTag? changed
  have received : new.int? receiptName = old.int? receiptName := by
    rw [← old.map_type_receipt] at sameType carrying
    rw [← new.map_type_receipt] at sameType
    rw [int?, int?, Values.int?, Values.int?, ← value?, ← value?]
    cases has : old.value? receiptName with
    | none =>
        rw [has, Option.map_none, Option.map_eq_none_iff] at sameType
        rw [sameType]
    | some held =>
        rw [has] at carrying
        obtain ⟨now, found, kept⟩ := upgrade.kept receiptName held has (carrying held.type rfl)
        rw [found]
        exact kept.int?_eq
  rw [indexTime_eq_getD, indexTime_eq_getD, received, upgrade.eventTime_eq]

end Record

/-! ## Frames -/

namespace Frame

variable {frame : Frame} {tag : RecordTag}

theorem indexTime_of_get? (known : RecordTag.ofByte? frame.header.rtype = some tag)
    {record : Record ⟨RecordKind.ofTag tag, false⟩}
    (found : frame.get? ⟨RecordKind.ofTag tag, false⟩ = some record) :
    frame.indexTime = record.indexTime := by
  rw [indexTime, dispatch_of_known known, getLong_of_get? found, map_ok]

theorem indexTime_of_lt (known : RecordTag.ofByte? frame.header.rtype = some tag)
    (short : frame.size < RecordType.size ⟨RecordKind.ofTag tag, false⟩) :
    frame.indexTime = frame.header.eventTime := by
  rw [indexTime, dispatch_of_known known, getLong_of_lt short, map_error]

end Frame

namespace Record

variable {kind : RecordKind} {stamped : Bool} {record : Record ⟨kind, stamped⟩}

/-- The frame of a record of version 1 is too short for the layout that its tag names. -/
theorem IsProper.indexTime_frame_of_isLegacy (proper : record.IsProper)
    (isLegacy : kind.isLegacy = true) :
    proper.frame.indexTime = record.header.eventTime := by
  obtain ⟨tag, changed⟩ := RecordKind.exists_legacyOfTag? isLegacy
  have known : RecordTag.ofByte? proper.frame.header.rtype = some tag := by
    rw [proper.header_frame]
    exact proper.ofByte?_rtype changed
  have short : proper.frame.size < RecordType.size ⟨RecordKind.ofTag tag, false⟩ := by
    rw [show proper.frame.size = _ from record.length_toBytes]
    exact RecordKind.size_lt_of_legacyOfTag? changed stamped
  rw [Frame.indexTime_of_lt known short, proper.header_frame]

/-- The frame of a record of the current version is read as the record. -/
theorem IsProper.indexTime_frame_of_current (proper : record.IsProper)
    (isCurrent : kind.isLegacy = false) : proper.frame.indexTime = record.indexTime := by
  obtain ⟨tag, listed, tagged⟩ := RecordKind.exists_tag_of_accepts proper.accepted
  obtain rfl : kind = RecordKind.ofTag tag :=
    (RecordKind.mem_tags_iff_ofTag isCurrent tag).mp listed
  have known : RecordTag.ofByte? proper.frame.header.rtype = some tag := by
    rw [proper.header_frame]
    exact tagged
  have fits : RecordType.size ⟨RecordKind.ofTag tag, false⟩ ≤
      RecordType.size ⟨RecordKind.ofTag tag, stamped⟩ :=
    Nat.le_add_right _ _
  rw [Frame.indexTime_of_get? known (proper.get?_frame_of_le proper.accepted fits),
    record.ofBytes_unstamped]
  rfl

/-- The frame of a record is ordered as the record is, unless it is a definition of version 1
that was received at another time than its event.  A record of version 1 is always ordered as
it was once it is upgraded. -/
theorem indexTime_frame_iff (type : RecordType) (record : Record type)
    (proper : record.IsProper) :
    proper.frame.indexTime =
        (if type.kind = .instrumentDefV1 then record.header.eventTime
          else record.indexTime) ∧
      (proper.frame.indexTime = record.indexTime ↔
        type.kind = .instrumentDefV1 → record.header.eventTime = record.indexTime) ∧
      ∀ tag target, RecordKind.legacyOfTag? tag = some (type.kind, target) →
        ∀ address buffer, address % recordAlignment = 0 → ∃ frame after,
          decodeFrame 1 .upgrade type.stamped buffer address record.toBytes =
              .ok (.upgraded frame, after) ∧
            frame.indexTime = record.indexTime := by
  obtain ⟨kind, stamped⟩ := type
  have ordered : proper.frame.indexTime =
      if kind = .instrumentDefV1 then record.header.eventTime else record.indexTime := by
    split
    next definition =>
      subst definition
      exact proper.indexTime_frame_of_isLegacy rfl
    next other =>
      cases isLegacy : kind.isLegacy with
      | false => exact proper.indexTime_frame_of_current isLegacy
      | true =>
          rw [proper.indexTime_frame_of_isLegacy isLegacy,
            indexTime_of_none (RecordKind.receipt_of_isLegacy isLegacy other)]
  refine ⟨ordered, ?_, ?_⟩
  · rw [ordered]
    dsimp only
    split <;> simp_all
  · intro tag target changed address buffer aligned
    have upgraded := proper.upgradedTo changed
    refine ⟨upgraded.frame, _, proper.decodeFrame_toBytes changed aligned buffer, ?_⟩
    have isCurrent : target.isLegacy = false := by
      rw [RecordKind.eq_ofTag_of_legacyOfTag? changed]
      exact RecordKind.isLegacy_ofTag tag
    rw [upgraded.indexTime_frame_of_current isCurrent]
    exact (isUpgradeOf_upgradedTo changed (proper.ofByte?_rtype changed)).indexTime_eq changed

/-- A record with nothing set but the time of its event, 1, and the time of its receipt, 2. -/
def received (type : RecordType) : Record type :=
  { (initial type).setInt receiptName 2 with
    header := Header.new type type.kind.defaultTag 0 0 1 }

/-- A trade is ordered by its receipt, and so is a definition of version 1 that is
upgraded. -/
theorem indexTime_frame_received :
    (∃ proper : (received ⟨.trade, true⟩).IsProper, proper.frame.indexTime = 2) ∧
      ∃ frame after, decodeFrame 1 .upgrade true {} 8 (received ⟨.instrumentDefV1, true⟩).toBytes =
          .ok (.upgraded frame, after) ∧
        frame.indexTime = 2 := by
  have trade : (received ⟨.trade, true⟩).IsProper := ⟨by decide, by decide⟩
  have definition : (received ⟨.instrumentDefV1, true⟩).IsProper := ⟨by decide, by decide⟩
  obtain ⟨ordered, -, -⟩ := indexTime_frame_iff _ _ trade
  obtain ⟨-, -, upgraded⟩ := indexTime_frame_iff _ _ definition
  obtain ⟨frame, after, decoded, kept⟩ :=
    upgraded .instrumentDef .instrumentDef rfl 8 {} (by decide)
  constructor
  · exact ⟨trade, ordered.trans (by decide)⟩
  · exact ⟨frame, after, decoded, kept.trans (by decide)⟩

/-- The frame of a definition of version 1 is ordered by its event. -/
theorem indexTime_frame_definition :
    ∃ proper : (received ⟨.instrumentDefV1, false⟩).IsProper,
      proper.frame.indexTime = 1 ∧ (received ⟨.instrumentDefV1, false⟩).indexTime = 2 := by
  have proper : (received ⟨.instrumentDefV1, false⟩).IsProper := ⟨by decide, by decide⟩
  exact ⟨proper, proper.indexTime_frame_of_isLegacy rfl, by decide⟩

end Record

end TickWire
