import TickWire.Proofs.Outcome
import TickWire.Proofs.Record.Size
import TickWire.Record.Legacy

/-!
# Decoding one frame

What a frame decodes to depends on the frame, the version and the policy alone: not on
where the frame lies, as long as it is aligned, and not on what the buffer of upgraded
records held before.
-/

namespace TickWire

/-- What a frame that stands alone decodes to. -/
def Frame.decodeAlone (version : UInt8) (policy : UpgradePolicy) (stamped : Bool)
    (frame : Frame) : Except Error Frame :=
  (decodeFrame version policy stamped {} 0 frame.bytes).map fun decoded => decoded.1.frame

/-- Upgraded bytes are a whole frame. -/
theorem exists_frame_of_upgradedBytes {legacy target : RecordKind} {stamped : Bool}
    {frame : Frame} {bytes : Bytes}
    (upgraded : upgradedBytes legacy target stamped frame = .ok bytes) :
    ∃ new : Frame, new.bytes = bytes := by
  cases stamped with
  | false =>
      cases found : frame.getLong ⟨legacy, false⟩ with
      | error error => simp [upgradedBytes, found] at upgraded
      | ok old =>
          simp only [upgradedBytes, found, map_ok] at upgraded
          exact ⟨(old.convert target).toFrame (RecordType.sizeOfLength_lengthOfSize _),
            Except.ok.inj upgraded⟩
  | true =>
      cases found : frame.getLong ⟨legacy, true⟩ with
      | error error => simp [upgradedBytes, found] at upgraded
      | ok old =>
          simp only [upgradedBytes, found, map_ok] at upgraded
          exact ⟨(old.convertStamped target).toFrame
            (RecordType.sizeOfLength_lengthOfSize _), Except.ok.inj upgraded⟩

theorem error_of_upgradedBytes {legacy target : RecordKind} {stamped : Bool} {frame : Frame}
    {error : Error} (refused : upgradedBytes legacy target stamped frame = .error error) :
    ∃ typeName, error = .recordTooShort frame.size typeName := by
  have short {type : RecordType} {change : Record type → Bytes}
      (failed : (frame.getLong type).map change = .error error) :
      ∃ typeName, error = .recordTooShort frame.size typeName := by
    rw [Frame.getLong] at failed
    split at failed <;> cases failed
    exact ⟨type.path, rfl⟩
  rw [upgradedBytes] at refused
  split at refused <;> exact short refused

/-- The stored copy is the upgraded frame, whatever the buffer held before. -/
theorem UpgradeBuffer.ofBytes_store (buffer : UpgradeBuffer) (new : Frame) :
    Frame.ofBytes 0 (buffer.store new.bytes).bytes = .ok new :=
  Frame.ofBytes_append 0 rfl new _

/-! ## The four outcomes -/

section Outcomes

variable {version : UInt8} {policy : UpgradePolicy} {stamped : Bool} {buffer : UpgradeBuffer}
  {address : Nat} {input : Bytes} {frame : Frame} {legacy target : RecordKind}

theorem decodeFrame_of_beyond (beyond : formatVersion < version) :
    decodeFrame version policy stamped buffer address input =
      .error (.unsupportedVersion version) := by
  rw [decodeFrame, if_pos beyond]
  rfl

/-- A frame is the input itself unless version, policy and tag all ask for an upgrade. -/
theorem decodeFrame_of_kept (known : version ≤ formatVersion)
    (found : Frame.ofBytes address input = .ok frame)
    (kept : version ≠ 1 ∨ policy ≠ .upgrade ∨
      (RecordTag.ofByte? frame.header.rtype).bind RecordKind.legacyOfTag? = none) :
    decodeFrame version policy stamped buffer address input = .ok (.inPlace frame, buffer) := by
  rw [decodeFrame, if_neg (UInt8.not_lt.mpr known), found]
  simp only [ok_bind]
  split
  · rfl
  next unsettled =>
    obtain ⟨first, upgrades⟩ := not_or.mp unsettled
    have unchanged := (kept.resolve_left first).resolve_left upgrades
    rw [unchanged]
    rfl

theorem decodeFrame_of_upgraded {new : Frame} (found : Frame.ofBytes address input = .ok frame)
    (named : (RecordTag.ofByte? frame.header.rtype).bind RecordKind.legacyOfTag? =
      some (legacy, target))
    (upgraded : upgradedBytes legacy target stamped frame = .ok new.bytes) :
    decodeFrame 1 .upgrade stamped buffer address input =
      .ok (.upgraded new, buffer.store new.bytes) := by
  have known : ¬formatVersion < 1 := by decide
  have unsettled : ¬((1 : UInt8) ≠ 1 ∨ UpgradePolicy.upgrade ≠ .upgrade) := by decide
  rw [decodeFrame, if_neg known, found]
  simp only [ok_bind, if_neg unsettled, named, upgraded, UpgradeBuffer.ofBytes_store]
  rfl

theorem decodeFrame_of_refused {error : Error} (found : Frame.ofBytes address input = .ok frame)
    (named : (RecordTag.ofByte? frame.header.rtype).bind RecordKind.legacyOfTag? =
      some (legacy, target))
    (refused : upgradedBytes legacy target stamped frame = .error error) :
    decodeFrame 1 .upgrade stamped buffer address input = .error error := by
  have known : ¬formatVersion < 1 := by decide
  have unsettled : ¬((1 : UInt8) ≠ 1 ∨ UpgradePolicy.upgrade ≠ .upgrade) := by decide
  rw [decodeFrame, if_neg known, found]
  simp only [ok_bind, if_neg unsettled, named, refused]
  rfl

/-- A frame is kept, or it is of version 1, to be upgraded, and of a kind that has changed. -/
theorem kept_or_named (version : UInt8) (policy : UpgradePolicy) (frame : Frame) :
    (version ≠ 1 ∨ policy ≠ .upgrade ∨
      (RecordTag.ofByte? frame.header.rtype).bind RecordKind.legacyOfTag? = none) ∨
    (version = 1 ∧ policy = .upgrade ∧ ∃ legacy target,
      (RecordTag.ofByte? frame.header.rtype).bind RecordKind.legacyOfTag? =
        some (legacy, target)) := by
  by_cases first : version = 1
  · by_cases upgrades : policy = .upgrade
    · cases named : (RecordTag.ofByte? frame.header.rtype).bind RecordKind.legacyOfTag? with
      | none => exact .inl (.inr (.inr rfl))
      | some kinds => exact .inr ⟨first, upgrades, kinds.1, kinds.2, rfl⟩
    · exact .inl (.inr (.inl upgrades))
  · exact .inl (.inl first)

/-- What is decoded is the frame that the input begins with, or an upgraded one that the buffer
begins with from then on. -/
theorem inPlace_or_stored {decoded : DecodedFrame} {after : UpgradeBuffer}
    (found : decodeFrame version policy stamped buffer address input = .ok (decoded, after)) :
    (∃ frame, decoded = .inPlace frame ∧ Frame.ofBytes address input = .ok frame) ∨
      ∃ new, decoded = .upgraded new ∧ after = buffer.store new.bytes := by
  by_cases beyond : formatVersion < version
  · rw [decodeFrame_of_beyond beyond] at found
    cases found
  have known := UInt8.not_lt.mp beyond
  cases framed : Frame.ofBytes address input with
  | error error =>
      rw [decodeFrame, if_neg beyond, framed] at found
      cases found
  | ok frame =>
      obtain kept | ⟨rfl, rfl, legacy, target, named⟩ := kept_or_named version policy frame
      · rw [decodeFrame_of_kept known framed kept] at found
        cases found
        exact .inl ⟨frame, rfl, rfl⟩
      cases upgraded : upgradedBytes legacy target stamped frame with
      | error error =>
          rw [decodeFrame_of_refused framed named upgraded] at found
          cases found
      | ok bytes =>
          obtain ⟨new, rfl⟩ := exists_frame_of_upgradedBytes upgraded
          rw [decodeFrame_of_upgraded framed named upgraded] at found
          cases found
          exact .inr ⟨new, rfl, rfl⟩

end Outcomes

/-! ## Frames that stand alone -/

theorem decodeFrame_frame_eq (address : Nat) (aligned : address % recordAlignment = 0)
    (version : UInt8) (policy : UpgradePolicy) (stamped : Bool) (buffer : UpgradeBuffer)
    (frame : Frame) :
    (decodeFrame version policy stamped buffer address frame.bytes).map
        (fun decoded => decoded.1.frame) =
      frame.decodeAlone version policy stamped := by
  have here := Frame.ofBytes_bytes address aligned frame
  have alone := Frame.ofBytes_bytes 0 rfl frame
  rw [Frame.decodeAlone]
  by_cases beyond : formatVersion < version
  · rw [decodeFrame_of_beyond beyond, decodeFrame_of_beyond beyond]
  have known := UInt8.not_lt.mp beyond
  obtain kept | ⟨rfl, rfl, legacy, target, named⟩ := kept_or_named version policy frame
  · rw [decodeFrame_of_kept known here kept, decodeFrame_of_kept known alone kept]
    rfl
  cases upgraded : upgradedBytes legacy target stamped frame with
  | error error =>
      rw [decodeFrame_of_refused here named upgraded,
        decodeFrame_of_refused alone named upgraded]
  | ok bytes =>
      obtain ⟨new, rfl⟩ := exists_frame_of_upgradedBytes upgraded
      rw [decodeFrame_of_upgraded here named upgraded,
        decodeFrame_of_upgraded alone named upgraded]
      rfl

namespace Frame

variable {version : UInt8} {policy : UpgradePolicy}

/-- A frame of a version that the policy does not upgrade stays as it is. -/
theorem decodeAlone_of_settled (known : version ≤ formatVersion)
    (settled : version ≠ 1 ∨ policy ≠ .upgrade) (stamped : Bool) (frame : Frame) :
    frame.decodeAlone version policy stamped = .ok frame := by
  rw [decodeAlone, decodeFrame_of_kept known (ofBytes_bytes 0 rfl frame)
    (or_assoc.mp (.inl settled))]
  rfl

theorem decodeAlone_asIs (known : version ≤ formatVersion) (stamped : Bool) (frame : Frame) :
    frame.decodeAlone version .asIs stamped = .ok frame :=
  decodeAlone_of_settled known (.inr (by decide)) stamped frame

/-- A frame is refused in a version that cannot be read, and where it is to be upgraded and is
too short. -/
theorem error_of_decodeAlone {stamped : Bool} {frame : Frame} {error : Error}
    (refused : frame.decodeAlone version policy stamped = .error error) :
    formatVersion < version ∧ error = .unsupportedVersion version ∨
      version = 1 ∧ policy = .upgrade ∧
        ∃ typeName, error = .recordTooShort frame.size typeName := by
  have alone := ofBytes_bytes 0 rfl frame
  rw [decodeAlone] at refused
  by_cases beyond : formatVersion < version
  · rw [decodeFrame_of_beyond beyond] at refused
    cases refused
    exact .inl ⟨beyond, rfl⟩
  obtain kept | ⟨rfl, rfl, legacy, target, named⟩ := kept_or_named version policy frame
  · rw [decodeFrame_of_kept (UInt8.not_lt.mp beyond) alone kept] at refused
    cases refused
  refine .inr ⟨rfl, rfl, ?_⟩
  cases upgraded : upgradedBytes legacy target stamped frame with
  | error failure =>
      rw [decodeFrame_of_refused alone named upgraded] at refused
      cases refused
      exact error_of_upgradedBytes upgraded
  | ok bytes =>
      obtain ⟨new, rfl⟩ := exists_frame_of_upgradedBytes upgraded
      rw [decodeFrame_of_upgraded alone named upgraded] at refused
      cases refused

end Frame

end TickWire
