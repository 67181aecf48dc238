import TickWire.Proofs.Record.View
import TickWire.Proofs.Stream.Typed

/-!
# Writing records that were read

A frame may be read as a type that is shorter than it, such as a trade that was sent with
the time of sending.  The record keeps the header of the frame and is written in the size of
its type.  So what was read is written as a stream of the same records exactly where no
frame was longer than the type.
-/

namespace TickWire

namespace Frame

variable {type : RecordType} {frame : Frame} {frames : List Frame}
  {records : List (Record type)}

theorem recordSize_header (frame : Frame) : frame.header.recordSize = frame.size :=
  frame.length_eq.symm

/-- The header of a frame is the header of every record that it is read as. -/
theorem recordSize_of_get? {record : Record type} (read : frame.get? type = some record) :
    record.header.recordSize = frame.size := by
  obtain ⟨-, rfl⟩ := get?_eq_some_iff.mp read
  exact frame.recordSize_header

namespace ReadAs

/-- No record is longer than its frame. -/
theorem size_le (read : ReadAs frames records) :
    ∀ frame ∈ frames, type.size ≤ frame.size := by
  induction read with
  | nil => exact List.forall_mem_nil _
  | cons first _ ih =>
      exact List.forall_mem_cons.mpr ⟨(get?_eq_some_iff.mp first).1.2, ih⟩

/-- Records say how long their frames were. -/
theorem forall_recordSize_iff (read : ReadAs frames records) :
    (∀ record ∈ records, record.toBytes.length = record.header.recordSize) ↔
      ∀ frame ∈ frames, frame.size = type.size := by
  induction read with
  | nil => simp
  | @cons frame record _ _ first _ ih =>
      rw [List.forall_mem_cons, List.forall_mem_cons, ih, record.length_toBytes,
        recordSize_of_get? first, eq_comm]

theorem length_le_concat (read : ReadAs frames records) :
    records.length * type.size ≤ (concat frames).length := by
  induction read with
  | nil => simp
  | @cons frame _ frames _ first _ ih =>
      have long : type.size ≤ frame.bytes.length := (get?_eq_some_iff.mp first).1.2
      rw [concat_cons, List.length_append, List.length_cons, Nat.succ_mul, Nat.add_comm]
      exact Nat.add_le_add long ih

/-- Frames that together are no longer than their records are no longer each: none makes up
for another, since none is shorter. -/
theorem size_eq_of_length_concat (read : ReadAs frames records)
    (short : (concat frames).length ≤ records.length * type.size) :
    ∀ frame ∈ frames, frame.size = type.size := by
  induction read with
  | nil => exact List.forall_mem_nil _
  | @cons frame record frames records first others ih =>
      have long : type.size ≤ frame.bytes.length := (get?_eq_some_iff.mp first).1.2
      have longer := length_le_concat others
      rw [concat_cons, List.length_append, List.length_cons, Nat.succ_mul] at short
      have fitting : frame.size = type.size := by
        rw [size]
        omega
      have less : (concat frames).length ≤ records.length * type.size := by omega
      exact List.forall_mem_cons.mpr ⟨fitting, ih less⟩

/-- Frames of the size of the type are written again as they were. -/
theorem flatMap_toBytes (read : ReadAs frames records)
    (fitting : ∀ frame ∈ frames, frame.size = type.size) :
    records.flatMap Record.toBytes = concat frames := by
  induction read with
  | nil => rfl
  | @cons frame record _ _ first _ ih =>
      rw [List.forall_mem_cons] at fitting
      rw [List.flatMap_cons, concat_cons, ih fitting.2, toBytes_of_get? first, ← fitting.1,
        size, List.take_length]

end ReadAs

end Frame

theorem Record.length_flatMap_toBytes {type : RecordType} (records : List (Record type)) :
    (records.flatMap toBytes).length = records.length * type.size := by
  simp [List.length_flatMap, length_toBytes]

namespace RecordDecoder

variable {type : RecordType} {decoder : RecordDecoder}

/-- Bytes that begin with no frame end the records with an error. -/
theorem next_of_unframed (steady : decoder.source.IsSteady)
    (nonempty : decoder.source.rest ≠ [])
    (unframed : ¬Frame.IsFramed 0 decoder.source.rest) :
    ∃ error after, decoder.next = (.error error, after) := by
  cases holds : decoder.source.rest with
  | nil => contradiction
  | cons first others =>
      have readLength : decoder.source.readExact 1 = (.ok [first], decoder.source.advance 1) :=
        Source.readExact_of_rest_eq steady [first] holds
      simp only [next, readLength, readFrame]
      split
      · exact ⟨_, _, rfl⟩
      next below =>
        rw [List.headD_cons] at below
        -- A header that is announced and present would be a frame.
        have short : (decoder.source.advance 1).rest.length <
            Header.sizeOfLength first - 1 := by
          apply Nat.lt_of_not_le
          intro enough
          rw [Source.rest_advance, List.length_drop] at enough
          have within : Header.sizeOfLength first ≤ decoder.source.rest.length := by
            rw [holds, List.length_cons] at enough ⊢
            omega
          apply unframed
          rw [holds] at within ⊢
          exact ⟨Nat.le_trans (Nat.le_of_not_lt below) within, rfl, Nat.le_of_not_lt below,
            within⟩
        rw [List.headD_cons, Source.readExact_of_lt (steady.advance 1) _ short]
        exact ⟨_, _, rfl⟩

/-- Bytes are read as records only where they are frames, one after the other, that are read
as the records. -/
theorem exists_frames_of_recordsWithin (asIs : decoder.policy = .asIs)
    (known : decoder.version ≤ formatVersion) (steady : decoder.source.IsSteady)
    {records : List (Record type)} {bound : Nat} (enough : decoder.source.rest.length < bound)
    (decoded : recordsWithin type bound decoder = .ok records) :
    ∃ frames, decoder.source.rest = Frame.concat frames ∧ Frame.ReadAs frames records := by
  induction bound generalizing decoder records with
  | zero => contradiction
  | succ bound ih =>
      by_cases empty : decoder.source.rest = []
      · have ended : decoder.nextOf type = (.ok none, (decoder.nextOf type).2) :=
          Prod.ext (nextOf_of_empty type steady empty) rfl
        rw [recordsWithin, ended] at decoded
        cases decoded
        exact ⟨[], empty, .nil⟩
      · by_cases framed : Frame.IsFramed 0 decoder.source.rest
        · obtain ⟨frame, found⟩ := (Frame.exists_ofBytes_iff 0 _).mpr framed
          have holds : decoder.source.rest =
              frame.bytes ++ decoder.source.rest.drop frame.size := by
            rw [Frame.size_of_ofBytes found, (Frame.isFramed_of_ofBytes found).2,
              List.take_append_drop]
          obtain ⟨after, next, moved⟩ := nextOf_of_frame asIs known steady type holds
          rw [recordsWithin, next, typed] at decoded
          cases read : frame.get? type with
          | none =>
              rw [read] at decoded
              cases decoded
          | some record =>
              rw [read] at decoded
              dsimp only [map_ok] at decoded
              cases rest : recordsWithin type bound after with
              | error error =>
                  rw [rest] at decoded
                  cases decoded
              | ok others =>
                  rw [rest] at decoded
                  cases decoded
                  have behind : after.source.rest = decoder.source.rest.drop frame.size := by
                    rw [moved.source_eq]
                    rfl
                  have positive : 0 < frame.size :=
                    Nat.lt_of_lt_of_le (by decide) frame.headerSize_le_length
                  have present : 0 < decoder.source.rest.length :=
                    List.length_pos_of_ne_nil empty
                  have fewer : after.source.rest.length < bound := by
                    rw [behind, List.length_drop]
                    omega
                  obtain ⟨frames, split, readOthers⟩ := ih (moved.policy_eq.trans asIs)
                    (moved.version_eq ▸ known) (moved.source_eq ▸ steady.advance _) fewer rest
                  rw [behind] at split
                  exact ⟨frame :: frames, by rw [Frame.concat_cons, ← split, ← holds],
                    .cons read readOthers⟩
        · obtain ⟨error, after, failed⟩ := next_of_unframed steady empty framed
          rw [recordsWithin, nextOf, failed] at decoded
          cases decoded

/-- An as-is decoder reads bytes as records exactly where they are frames, one after the
other, that are read as the records. -/
theorem records_eq_ok_iff (asIs : decoder.policy = .asIs)
    (known : decoder.version ≤ formatVersion) (steady : decoder.source.IsSteady)
    {records : List (Record type)} :
    decoder.records type = .ok records ↔
      ∃ frames, decoder.source.rest = Frame.concat frames ∧ Frame.ReadAs frames records := by
  constructor
  · exact exists_frames_of_recordsWithin asIs known steady (Nat.lt_succ_self _)
  · rintro ⟨frames, holds, read⟩
    exact records_of_frames asIs known steady read holds

/-- A source that ends inside its first frame gives no records. -/
theorem records_of_partial (type : RecordType) (steady : decoder.source.IsSteady)
    (partialFrame : Frame.IsPartial decoder.source.rest) (nonempty : decoder.source.rest ≠ []) :
    decoder.records type = .error (.io .unexpectedEnd
      s!"reading record with length {Header.sizeOfLength (decoder.source.rest.headD 0)}") := by
  have failed : decoder.next = (.error _, decoder.next.2) :=
    Prod.ext (next_of_partial steady partialFrame nonempty rfl) rfl
  rw [records, recordsWithin, nextOf, failed]

/-- Records are read back from what they were written as exactly where the frames that they
were read from were of the size of the type. -/
theorem records_written_iff {frames : List Frame} {records : List (Record type)}
    (read : Frame.ReadAs frames records) (asIs : decoder.policy = .asIs)
    (known : decoder.version ≤ formatVersion) (steady : decoder.source.IsSteady)
    (holds : decoder.source.rest = records.flatMap Record.toBytes) :
    decoder.records type = .ok records ↔ ∀ frame ∈ frames, frame.size = type.size := by
  rw [← read.forall_recordSize_iff, records_eq_ok_iff asIs known steady, holds]
  constructor
  · rintro ⟨written, bytes, readAgain⟩
    apply readAgain.forall_recordSize_iff.mpr
    apply readAgain.size_eq_of_length_concat
    exact Nat.le_of_eq (bytes ▸ Record.length_flatMap_toBytes records)
  · intro fitting
    exact ⟨frames, read.flatMap_toBytes (read.forall_recordSize_iff.mp fitting), read⟩

end RecordDecoder

/-- Records that an as-is decoder reads are written in the size of their type, which their
headers never fall short of.  They are written as long as their headers say, and then are
read back, exactly where no frame that they were read from is longer than the type. -/
theorem Record.reencoded_exactly_iff (type : RecordType) (decoder : RecordDecoder)
    (records : List (Record type)) (asIs : decoder.policy = .asIs)
    (known : decoder.version ≤ formatVersion) (steady : decoder.source.IsSteady)
    (decoded : decoder.records type = .ok records) :
    ∃ frames sink, decoder.source.rest = Frame.concat frames ∧
      Frame.ReadAs frames records ∧ Sink.writeRecords {} records = (.ok (), sink) ∧
      sink.written = records.flatMap Record.toBytes ∧
      (∀ frame ∈ frames, type.size ≤ frame.size) ∧
      ((∀ record ∈ records, record.toBytes.length = record.header.recordSize) ↔
        ∀ frame ∈ frames, frame.size = type.size) ∧
      ∀ again : RecordDecoder, again.policy = .asIs → again.version ≤ formatVersion →
        again.source.IsSteady → again.source.rest = sink.written →
        (again.records type = .ok records ↔ ∀ frame ∈ frames, frame.size = type.size) := by
  obtain ⟨frames, holds, read⟩ :=
    (RecordDecoder.records_eq_ok_iff asIs known steady).mp decoded
  refine ⟨frames, _, holds, read, Sink.isOpen_empty.writeRecords_run records, rfl,
    read.size_le, read.forall_recordSize_iff, ?_⟩
  intro again asIsAgain knownAgain steadyAgain holdsAgain
  exact RecordDecoder.records_written_iff read asIsAgain knownAgain steadyAgain holdsAgain

/-- Two trades without a time of sending, which a decoder gets three bytes at a time. -/
theorem Record.reencoded_exactly_plain :
    let type : RecordType := ⟨.trade, false⟩
    let records := [Record.initial type, Record.initial type]
    let decoder : RecordDecoder :=
      { source := { rest := records.flatMap Record.toBytes, chunk? := some 3 } }
    decoder.records type = .ok records ∧
      ∃ frames sink, decoder.source.rest = Frame.concat frames ∧
        Sink.writeRecords {} records = (.ok (), sink) ∧
        ∀ again : RecordDecoder, again.policy = .asIs → again.version ≤ formatVersion →
          again.source.IsSteady → again.source.rest = sink.written →
          (again.records type = .ok records ↔ ∀ frame ∈ frames, frame.size = type.size) := by
  intro type records decoder
  have proper : ∀ record ∈ records, record.IsProper := by
    intro record member
    have same : record = Record.initial type := by simpa [records] using member
    rw [same]
    exact ⟨by decide, by decide⟩
  have steady : decoder.source.IsSteady := ⟨rfl, by decide⟩
  have known : decoder.version ≤ formatVersion := by decide
  have decoded : decoder.records type = .ok records :=
    RecordDecoder.records_of_proper rfl known steady records proper rfl
  obtain ⟨frames, sink, holds, -, written, -, -, -, again⟩ :=
    reencoded_exactly_iff type decoder records rfl known steady decoded
  exact ⟨decoded, frames, sink, holds, written, again⟩

/-- A trade with a time of sending that is read as one without keeps a header of 56 bytes,
is written in 48, and cannot be read back. -/
theorem Record.reencoded_shorter :
    let type : RecordType := ⟨.trade, false⟩
    let sent := (Record.initial ⟨.trade, true⟩).toBytes
    let record := Record.ofBytes type sent
    let decoder : RecordDecoder := { source := { rest := sent } }
    decoder.records type = .ok [record] ∧
      ∃ sink, Sink.writeRecords {} [record] = (.ok (), sink) ∧
        record.toBytes.length = 48 ∧ record.header.recordSize = 56 ∧
        let again : RecordDecoder := { source := { rest := sink.written } }
        again.records type =
          .error (.io .unexpectedEnd s!"reading record with length {56}") := by
  intro type sent record decoder
  have proper : (Record.initial ⟨.trade, true⟩).IsProper := ⟨by decide, by decide⟩
  have accepted : proper.frame.has type = true := by
    rw [Frame.has, proper.header_frame]
    decide
  have size : proper.frame.size = 56 := Record.length_toBytes _
  have longer : type.size < proper.frame.size := by
    rw [size]
    decide
  have read : proper.frame.get? type = some record :=
    Frame.get?_eq_some_iff.mpr ⟨⟨accepted, Nat.le_of_lt longer⟩, rfl⟩
  have steady : ∀ bytes : Bytes, Source.IsSteady { rest := bytes } :=
    fun bytes => ⟨rfl, by simp⟩
  have recordSize : record.header.recordSize = 56 := Frame.recordSize_of_get? read
  constructor
  · exact RecordDecoder.records_of_frames rfl (by decide) (steady sent) (.cons read .nil)
      (List.append_nil sent).symm
  · refine ⟨_, Sink.isOpen_empty.writeRecords_run [record], record.length_toBytes, recordSize, ?_⟩
    intro again
    have rest : again.source.rest = record.toBytes := List.append_nil _
    have beginning : again.source.rest = proper.frame.bytes.take type.size :=
      rest.trans (Frame.toBytes_of_get? read)
    have partialFrame : Frame.IsPartial again.source.rest := by
      refine ⟨proper.frame, beginning ▸ List.take_prefix _ _, ?_⟩
      rw [rest, record.length_toBytes]
      exact longer
    have nonempty : again.source.rest ≠ [] := by
      apply List.ne_nil_of_length_pos
      rw [rest, record.length_toBytes]
      decide
    have announced : Header.sizeOfLength (again.source.rest.headD 0) = 56 := by
      rw [rest, record.headD_toBytes]
      exact recordSize
    rw [RecordDecoder.records_of_partial type (steady _) partialFrame nonempty, announced]

end TickWire
