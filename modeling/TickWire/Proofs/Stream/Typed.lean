import TickWire.Proofs.Record.View
import TickWire.Proofs.Stream.Framing
import TickWire.Proofs.Stream.Sink

/-!
# Files of one type of record

Records of one type that are written one after the other are read back as they were, by
any decoder that leaves records as they are.
-/

namespace TickWire

/-- Frames that are read as records of a type, each as one. -/
def Frame.ReadAs {type : RecordType} : List Frame → List (Record type) → Prop :=
  List.Forall₂ fun frame record => frame.get? type = some record

/-- Proper records that are written one after the other are frames that are read as
them. -/
theorem Record.exists_frames_of_proper {type : RecordType} (records : List (Record type))
    (proper : ∀ record ∈ records, record.IsProper) :
    ∃ frames, Frame.ReadAs frames records ∧
      Frame.concat frames = records.flatMap Record.toBytes := by
  induction records with
  | nil => exact ⟨[], .nil, rfl⟩
  | cons record others ih =>
      rw [List.forall_mem_cons] at proper
      obtain ⟨frames, read, bytes⟩ := ih proper.2
      exact ⟨proper.1.frame :: frames, .cons proper.1.get?_frame read, by
        rw [Frame.concat_cons, bytes, List.flatMap_cons]
        rfl⟩

namespace RecordDecoder

variable {type : RecordType} {decoder : RecordDecoder}

/-- One call takes the first frame. -/
theorem nextOf_of_frame (asIs : decoder.policy = .asIs)
    (known : decoder.version ≤ formatVersion) (steady : decoder.source.IsSteady)
    (type : RecordType) {frame : Frame} {later : Bytes}
    (holds : decoder.source.rest = frame.bytes ++ later) :
    ∃ after, decoder.nextOf type = ((typed type frame).map some, after) ∧
      decoder.Moved frame.bytes.length after := by
  obtain ⟨after, next, moved⟩ := next_of_frame steady holds
  rw [asIs, Frame.decodeAlone_asIs known, map_ok] at next
  exact ⟨after, by rw [nextOf, next], moved⟩

theorem nextOf_of_empty (type : RecordType) (steady : decoder.source.IsSteady)
    (holds : decoder.source.rest = []) : (decoder.nextOf type).1 = .ok none := by
  have read : decoder.next = (.ok none, decoder.next.2) :=
    Prod.ext (next_of_empty steady holds) rfl
  rw [nextOf, read]

/-- All frames are read until the source ends. -/
theorem recordsWithin_of_frames (asIs : decoder.policy = .asIs)
    (known : decoder.version ≤ formatVersion) (steady : decoder.source.IsSteady)
    {frames : List Frame} {records : List (Record type)} (read : Frame.ReadAs frames records)
    (holds : decoder.source.rest = Frame.concat frames) {bound : Nat}
    (enough : frames.length < bound) : recordsWithin type bound decoder = .ok records := by
  induction read generalizing decoder bound with
  | nil =>
      cases bound with
      | zero => contradiction
      | succ bound =>
          have ended : decoder.nextOf type = (.ok none, (decoder.nextOf type).2) :=
            Prod.ext (nextOf_of_empty type steady holds) rfl
          rw [recordsWithin, ended]
  | @cons frame record frames others first _ ih =>
      cases bound with
      | zero => contradiction
      | succ bound =>
          obtain ⟨after, next, moved⟩ := nextOf_of_frame asIs known steady type holds
          have behind : after.source.rest = Frame.concat frames := by
            rw [moved.source_eq]
            simp [holds]
          have more := ih (moved.policy_eq.trans asIs) (moved.version_eq ▸ known)
            (moved.source_eq ▸ steady.advance _) behind (Nat.lt_of_succ_lt_succ enough)
          rw [recordsWithin, next, typed, first]
          dsimp only [map_ok]
          rw [more, map_ok]

theorem records_of_frames (asIs : decoder.policy = .asIs)
    (known : decoder.version ≤ formatVersion) (steady : decoder.source.IsSteady)
    {frames : List Frame} {records : List (Record type)} (read : Frame.ReadAs frames records)
    (holds : decoder.source.rest = Frame.concat frames) :
    decoder.records type = .ok records := by
  apply recordsWithin_of_frames asIs known steady read holds
  rw [holds]
  exact Nat.lt_succ_of_le (Frame.length_le_concat frames)

theorem records_of_proper (asIs : decoder.policy = .asIs)
    (known : decoder.version ≤ formatVersion) (steady : decoder.source.IsSteady)
    (records : List (Record type)) (proper : ∀ record ∈ records, record.IsProper)
    (holds : decoder.source.rest = records.flatMap Record.toBytes) :
    decoder.records type = .ok records := by
  obtain ⟨frames, read, bytes⟩ := Record.exists_frames_of_proper records proper
  exact records_of_frames asIs known steady read (holds.trans bytes.symm)

end RecordDecoder

/-- The codec of a record type is exact in both directions, and proper records that are
written are read back as they are. -/
theorem Record.codec_exact (type : RecordType) :
    (∀ bytes, bytes.length = type.size → (Record.ofBytes type bytes).toBytes = bytes) ∧
      (∀ record : Record type, Record.ofBytes type record.toBytes = record) ∧
      ∀ records : List (Record type), (∀ record ∈ records, record.IsProper) →
        ∃ sink, Sink.writeRecords {} records = (.ok (), sink) ∧
          ∀ decoder : RecordDecoder, decoder.policy = .asIs →
            decoder.version ≤ formatVersion → decoder.source.IsSteady →
            decoder.source.rest = sink.written → decoder.records type = .ok records := by
  refine ⟨fun bytes => (isCodec type).encode_decode_of_length, (isCodec type).decode_encode, ?_⟩
  intro records proper
  refine ⟨_, Sink.isOpen_empty.writeRecords_run records, ?_⟩
  intro decoder asIs known steady holds
  exact RecordDecoder.records_of_proper asIs known steady records proper holds

/-- Records with the time of sending, as the gateway of version 1 would write them. -/
theorem Record.codec_exact_stamped :
    let type : RecordType := ⟨.systemV1, true⟩
    let record := Record.initial type
    (record.toBytes.length = type.size ∧
        (Record.ofBytes type record.toBytes).toBytes = record.toBytes) ∧
      (record.IsProper ∧ ∃ sink, Sink.writeRecords {} [record, record] = (.ok (), sink) ∧
        let decoder : RecordDecoder :=
          { source := { rest := sink.written, chunk? := some 3 }, version := 1 }
        decoder.source.IsSteady ∧ decoder.records type = .ok [record, record]) := by
  intro type record
  obtain ⟨bytesExact, -, files⟩ := codec_exact type
  have length : record.toBytes.length = type.size := record.length_toBytes
  have proper : record.IsProper := ⟨by decide, by decide⟩
  have allProper : ∀ one ∈ [record, record], one.IsProper := by
    intro one member
    have same : one = record := by simpa using member
    exact same ▸ proper
  obtain ⟨sink, written, reads⟩ := files [record, record] allProper
  refine ⟨⟨length, bytesExact _ length⟩, proper, sink, written, ?_⟩
  intro decoder
  have pieces : (some 3 : Option Nat) ≠ some 0 := by decide
  have known : (1 : UInt8) ≤ formatVersion := by decide
  have steady : decoder.source.IsSteady := ⟨rfl, pieces⟩
  exact ⟨steady, reads decoder rfl known steady rfl⟩

end TickWire
