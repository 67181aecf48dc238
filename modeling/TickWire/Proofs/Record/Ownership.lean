import TickWire.Proofs.Stream.Reencoding

/-!
# Records that outlive their frames

A record that is read from a frame keeps the header of the frame, but of the bytes after it
only as many as its type has.  An unchecked view of the record in memory trusts the header.
So it shows the record and nothing else exactly where the frame was as long as the type, and
shows what follows the record in memory where the frame was longer.
-/

namespace TickWire

namespace Record

variable {type : RecordType}

/-- What an unchecked view of a record shows where other bytes follow the record in memory:
as many bytes as the header of the record says. -/
def shown (record : Record type) (following : Bytes) : Bytes :=
  (record.toBytes ++ following).take record.header.recordSize

/-- A view that is longer than the record shows what follows the record. -/
theorem shown_of_le {record : Record type} (long : type.size ≤ record.header.recordSize)
    (following : Bytes) :
    record.shown following =
      record.toBytes ++ following.take (record.header.recordSize - type.size) := by
  rw [shown, List.take_append, record.length_toBytes,
    List.take_of_length_le (Nat.le_trans (Nat.le_of_eq record.length_toBytes) long)]

/-- A view shows the record, whatever follows it, exactly where the header says the size of
the record. -/
theorem forall_shown_eq_iff {record : Record type} :
    (∀ following, record.shown following = record.toBytes) ↔
      record.header.recordSize = type.size := by
  constructor
  · intro same
    -- One byte behind the record tells a longer view from the record.
    have length := congrArg List.length (same [0])
    rw [shown, List.length_take, List.length_append, record.length_toBytes] at length
    simp only [List.length_singleton] at length
    omega
  · intro sized following
    rw [shown_of_le (Nat.le_of_eq sized.symm), sized, Nat.sub_self, List.take_zero,
      List.append_nil]

end Record

namespace Frame

/-- A record that a frame was read as begins the frame, in the size of its type, and says
that it is as long as the frame.  A view of it shows what begins the frame and then what
follows the record in memory, as far as the frame was longer than the type; so the record is
as long as it says, and views of it show its own bytes, exactly where the frame was as long
as the type. -/
theorem shown_current_iff (frame : Frame) (owned : SomeRecord)
    (read : frame.current = .ok owned) :
    owned.record.toBytes = frame.bytes.take owned.type.size ∧
      owned.record.header.recordSize = frame.size ∧
      owned.type.size ≤ frame.size ∧
      (∀ following, owned.record.shown following =
        frame.bytes.take owned.type.size
          ++ following.take (frame.size - owned.type.size)) ∧
      (owned.record.header.recordSize = owned.record.toBytes.length ↔
        frame.size = owned.type.size) ∧
      ((∀ following, owned.record.shown following = owned.record.toBytes) ↔
        frame.size = owned.type.size) := by
  have found := get?_of_current read
  have begins := toBytes_of_get? found
  have announced := recordSize_of_get? found
  have long : owned.type.size ≤ frame.size := (get?_eq_some_iff.mp found).1.2
  refine ⟨begins, announced, long, ?_, ?_, ?_⟩
  · intro following
    rw [Record.shown_of_le (announced ▸ long), announced, begins]
  · rw [owned.record.length_toBytes, announced]
  · rw [Record.forall_shown_eq_iff, announced]

/-- A view of a trade that was sent without a time of sending shows the trade. -/
theorem shown_current_plain_trade :
    let record := Record.initial ⟨.trade, false⟩
    ∃ frame, ofBytes 8 record.toBytes = .ok frame ∧ frame.current = .ok ⟨_, record⟩ ∧
      ∀ following, record.shown following = record.toBytes := by
  intro record
  have proper : record.IsProper := ⟨by decide, by decide⟩
  have known : RecordTag.ofByte? proper.frame.header.rtype = some .mbp0 := by
    rw [proper.header_frame]
    decide
  have read := current_of_get? known proper.get?_frame
  have sized : proper.frame.size = RecordType.size ⟨.trade, false⟩ := record.length_toBytes
  refine ⟨proper.frame, ofBytes_bytes 8 (by decide) proper.frame, read, ?_⟩
  exact (shown_current_iff proper.frame ⟨_, record⟩ read).2.2.2.2.2.mpr sized

/-- A trade that is read from the frame of one with a time of sending is eight bytes shorter
than it says, and a view of it shows the eight bytes that follow it in memory. -/
theorem shown_current_stamped_trade :
    let sent := Record.initial ⟨.trade, true⟩
    let record := Record.ofBytes ⟨.trade, false⟩ sent.toBytes
    ∃ frame, ofBytes 8 sent.toBytes = .ok frame ∧ frame.current = .ok ⟨_, record⟩ ∧
      record.header.recordSize = 56 ∧ record.toBytes.length = 48 ∧
      ∀ following, record.shown following = record.toBytes ++ following.take 8 := by
  intro sent record
  have proper : sent.IsProper := ⟨by decide, by decide⟩
  have known : RecordTag.ofByte? proper.frame.header.rtype = some .mbp0 := by
    rw [proper.header_frame]
    decide
  have found : proper.frame.get? ⟨.trade, false⟩ = some record :=
    proper.get?_frame_of_le (by decide) (by decide)
  have announced : record.header.recordSize = 56 :=
    (recordSize_of_get? found).trans sent.length_toBytes
  refine ⟨proper.frame, ofBytes_bytes 8 (by decide) proper.frame, current_of_get? known found,
    announced, record.length_toBytes, ?_⟩
  intro following
  rw [Record.shown_of_le (announced ▸ by decide), announced]
  rfl

end Frame

end TickWire
