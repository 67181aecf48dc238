import Mathlib.Algebra.BigOperators.Group.List.Basic
import TickWire.Proofs.Record.Upgrade
import TickWire.Proofs.Stream.Source
import TickWire.Stream.Decoder

/-!
# Framing of record files

Frames that lie one after the other are decoded one by one.  Each gives what it decodes
to on its own and moves the source by exactly its own bytes, also where it cannot be
decoded, so nothing that was decoded before has an influence on it.
-/

namespace TickWire

/-- Parts that take at least one byte each are no more than the bytes. -/
theorem length_le_length_flatMap {α : Type} {encoding : α → Bytes}
    (takes : ∀ part, 1 ≤ (encoding part).length) (parts : List α) :
    parts.length ≤ (parts.flatMap encoding).length := by
  have lengths := List.length_le_sum_of_one_le (parts.map fun part => (encoding part).length)
    (by simpa using fun part _ => takes part)
  rwa [List.length_map, ← List.length_flatMap] at lengths

/-- The bytes of frames that lie one after the other. -/
def Frame.concat (frames : List Frame) : Bytes := frames.flatMap Frame.bytes

namespace Frame

@[simp] theorem concat_nil : concat [] = [] := rfl

@[simp] theorem concat_cons (frame : Frame) (others : List Frame) :
    concat (frame :: others) = frame.bytes ++ concat others := by
  simp [concat]

theorem concat_append (front back : List Frame) :
    concat (front ++ back) = concat front ++ concat back := by
  simp [concat]

/-- There are no more frames than bytes. -/
theorem length_le_concat (frames : List Frame) : frames.length ≤ (concat frames).length :=
  length_le_length_flatMap (fun frame => Nat.le_trans (by decide) frame.headerSize_le_length)
    frames

/-- Bytes with which some frame begins, but which are not all of it. -/
def IsPartial (bytes : Bytes) : Prop :=
  ∃ frame : Frame, bytes <+: frame.bytes ∧ bytes.length < frame.bytes.length

end Frame

namespace RecordDecoder

variable {decoder after : RecordDecoder}

/-- The results of so many calls of `next`, one after the other. -/
def nextMany : (count : Nat) → RecordDecoder →
    List (Except Error (Option Frame)) × RecordDecoder
  | 0, decoder => ([], decoder)
  | count + 1, decoder =>
    let (result, decoder) := decoder.next
    let (results, decoder) := nextMany count decoder
    (result :: results, decoder)

theorem results_nextMany_succ (count : Nat) (decoder : RecordDecoder) :
    (decoder.nextMany (count + 1)).1 = decoder.next.1 :: (decoder.next.2.nextMany count).1 := rfl

/-- What calls of `next` leave as it was: all but the buffers, and the source up to the
bytes that were taken. -/
structure Moved (before : RecordDecoder) (count : Nat) (after : RecordDecoder) : Prop where
  source_eq : after.source = before.source.advance count
  version_eq : after.version = before.version
  policy_eq : after.policy = before.policy
  stamped_eq : after.stamped = before.stamped

theorem Moved.trans {before middle after : RecordDecoder} {first second : Nat}
    (one : before.Moved first middle) (two : middle.Moved second after) :
    before.Moved (first + second) after where
  source_eq := by rw [two.source_eq, one.source_eq, Source.advance_advance]
  version_eq := two.version_eq.trans one.version_eq
  policy_eq := two.policy_eq.trans one.policy_eq
  stamped_eq := two.stamped_eq.trans one.stamped_eq

/-- A frame that was read decodes to what it decodes to on its own. -/
theorem accept_bytes (decoder : RecordDecoder) (frame : Frame) :
    ∃ after, decoder.accept frame.bytes =
        ((frame.decodeAlone decoder.version decoder.policy decoder.stamped).map some,
          after) ∧
      decoder.Moved 0 after := by
  have alone := decodeFrame_frame_eq 0 rfl decoder.version decoder.policy
    decoder.stamped decoder.upgradeBuffer frame
  rw [← alone]
  simp only [accept]
  generalize decodeFrame decoder.version decoder.policy decoder.stamped
    decoder.upgradeBuffer 0 frame.bytes = result
  cases result with
  | error error => exact ⟨_, rfl, rfl, rfl, rfl, rfl⟩
  | ok decoded =>
      obtain ⟨place, upgradeBuffer⟩ := decoded
      cases place <;> exact ⟨_, rfl, rfl, rfl, rfl, rfl⟩

/-- One call takes exactly the bytes of the frame that the source begins with. -/
theorem next_of_frame (steady : decoder.source.IsSteady) {frame : Frame} {later : Bytes}
    (holds : decoder.source.rest = frame.bytes ++ later) :
    ∃ after, decoder.next =
        ((frame.decodeAlone decoder.version decoder.policy decoder.stamped).map some,
          after) ∧
      decoder.Moved frame.bytes.length after := by
  obtain ⟨first, others, bytes, announced, header⟩ := frame.bytes_eq_cons
  have notBelow : ¬Header.sizeOfLength first < headerSize := by omega
  have size : Header.sizeOfLength first - 1 = others.length := by omega
  have readLength : decoder.source.readExact 1 = (.ok [first], decoder.source.advance 1) :=
    Source.readExact_of_rest_eq steady [first] (by rw [holds, bytes]; rfl)
  have behind : (decoder.source.advance 1).rest = others ++ later := by
    simp [holds, bytes]
  have readOthers : (decoder.source.advance 1).readExact others.length =
      (.ok others, (decoder.source.advance 1).advance others.length) :=
    Source.readExact_of_rest_eq (steady.advance 1) others behind
  obtain ⟨after, accepted, moved⟩ := accept_bytes { decoder with
    last? := none, received := []
    source := (decoder.source.advance 1).advance others.length } frame
  refine ⟨after, ?_, ?_, moved.version_eq, moved.policy_eq, moved.stamped_eq⟩
  · simp only [next, readLength, readFrame, List.headD_cons, if_neg notBelow, size,
      readOthers, List.singleton_append, ← bytes]
    exact accepted
  · rw [moved.source_eq, Source.advance_zero, Source.advance_advance, bytes,
      List.length_cons, Nat.add_comm]

/-- A source that holds nothing ends the records without an error. -/
theorem next_of_empty (steady : decoder.source.IsSteady)
    (holds : decoder.source.rest = []) : decoder.next.1 = .ok none := by
  simp [next, Source.readExact_of_lt steady 1 (by simp [holds])]

/-- A source that ends inside a frame gives an error and no part of the frame. -/
theorem next_of_partial (steady : decoder.source.IsSteady) {tail : Bytes}
    (partialFrame : Frame.IsPartial tail) (nonempty : tail ≠ [])
    (holds : decoder.source.rest = tail) :
    decoder.next.1 = .error (.io .unexpectedEnd
      s!"reading record with length {Header.sizeOfLength (tail.headD 0)}") := by
  obtain ⟨frame, ⟨missing, whole⟩, short⟩ := partialFrame
  obtain ⟨first, others, bytes, announced, header⟩ := frame.bytes_eq_cons
  cases tail with
  | nil => contradiction
  | cons byte present =>
      obtain ⟨rfl, split⟩ : byte = first ∧ present ++ missing = others := by
        simpa [bytes] using whole
      have notBelow : ¬Header.sizeOfLength byte < headerSize := by omega
      have size : Header.sizeOfLength byte - 1 = others.length := by omega
      have readLength : decoder.source.readExact 1 =
          (.ok [byte], decoder.source.advance 1) :=
        Source.readExact_of_rest_eq steady [byte] (by rw [holds]; rfl)
      have readOthers := Source.readExact_of_lt (steady.advance 1) others.length
        (by simpa [holds, bytes] using short)
      simp only [next, readLength, readFrame, List.headD_cons, if_neg notBelow, size,
        readOthers]

/-- Frames that lie one after the other decode each on its own, and together they take
exactly their bytes. -/
theorem nextMany_of_frames (steady : decoder.source.IsSteady) (frames : List Frame)
    {later : Bytes} (holds : decoder.source.rest = Frame.concat frames ++ later) :
    ∃ after, decoder.nextMany frames.length =
        (frames.map fun frame =>
          (frame.decodeAlone decoder.version decoder.policy decoder.stamped).map some,
          after) ∧
      decoder.Moved (Frame.concat frames).length after := by
  induction frames generalizing decoder with
  | nil => exact ⟨decoder, rfl, rfl, rfl, rfl, rfl⟩
  | cons frame others ih =>
      obtain ⟨middle, first, moved⟩ := next_of_frame steady
        (holds.trans (by rw [Frame.concat_cons, List.append_assoc]))
      have behind : middle.source.rest = Frame.concat others ++ later := by
        simp [moved.source_eq, holds]
      obtain ⟨after, more, movedOn⟩ := ih (moved.source_eq ▸ steady.advance _) behind
      refine ⟨after, ?_, by simpa using moved.trans movedOn⟩
      simp only [List.length_cons, nextMany, first, more, List.map_cons, moved.version_eq,
        moved.policy_eq, moved.stamped_eq]

/-- Every frame decodes as it does alone, whatever stood in the buffers, and takes exactly
its own bytes; what follows the last frame ends the records, with an error unless it is
empty. -/
theorem decodes_frames_then_tail (decoder : RecordDecoder) (frames : List Frame)
    (tail : Bytes) (steady : decoder.source.IsSteady)
    (holds : decoder.source.rest = Frame.concat frames ++ tail)
    (partialFrame : Frame.IsPartial tail) :
    (∀ count ≤ frames.length, ∃ after,
      decoder.nextMany count =
        ((frames.take count).map fun frame =>
          (frame.decodeAlone decoder.version decoder.policy decoder.stamped).map some,
          after) ∧
      after.source = decoder.source.advance (Frame.concat (frames.take count)).length) ∧
    (decoder.nextMany frames.length).2.next.1 =
      if tail = [] then .ok none
      else .error (.io .unexpectedEnd
        s!"reading record with length {Header.sizeOfLength (tail.headD 0)}") := by
  constructor
  · intro count atMost
    have split : decoder.source.rest =
        Frame.concat (frames.take count) ++ (Frame.concat (frames.drop count) ++ tail) := by
      rw [← List.append_assoc, ← Frame.concat_append, List.take_append_drop, holds]
    obtain ⟨after, decoded, moved⟩ := nextMany_of_frames steady (frames.take count) split
    rw [List.length_take, Nat.min_eq_left atMost] at decoded
    exact ⟨after, decoded, moved.source_eq⟩
  · obtain ⟨after, decoded, moved⟩ := nextMany_of_frames steady frames holds
    have steadyAfter : after.source.IsSteady := moved.source_eq ▸ steady.advance _
    have behind : after.source.rest = tail := by simp [moved.source_eq, holds]
    rw [decoded]
    split
    next empty => exact next_of_empty steadyAfter (behind.trans empty)
    next nonempty => exact next_of_partial steadyAfter partialFrame nonempty behind

/-- A header of four words and no fields, with a tag. -/
def bareFrame (rtype : UInt8) : Frame where
  bytes := 4 :: rtype :: List.replicate 14 0
  headerSize_le_length := by simp [headerSize]
  length_eq := by simp [Header.sizeOfLength]

/-- The first frame is too short for the record that version 1 has under its tag, the
second is not upgraded, and the third breaks off after two bytes. -/
theorem decodes_short_frame_then_tail :
    let decoder : RecordDecoder := {
      source := {
        rest := Frame.concat [bareFrame 0x15, bareFrame 0x00] ++ [4, 0x15]
        chunk? := some 3 }
      version := 1
      policy := .upgrade }
    decoder.source.IsSteady ∧ Frame.IsPartial [4, 0x15] ∧
      (decoder.nextMany 2).1 =
        [.error (.recordTooShort 16 "dbn::compat::ErrorMsgV1"), .ok (some (bareFrame 0x00))] ∧
      (decoder.nextMany 2).2.source.rest = [4, 0x15] ∧
      (decoder.nextMany 2).2.next.1 =
        .error (.io .unexpectedEnd s!"reading record with length {16}") := by
  intro decoder
  have steady : decoder.source.IsSteady := ⟨rfl, by decide⟩
  have partialFrame : Frame.IsPartial [4, 0x15] := ⟨bareFrame 0x15, ⟨_, rfl⟩, by decide⟩
  have run := decodes_frames_then_tail decoder [bareFrame 0x15, bareFrame 0x00] [4, 0x15]
    steady rfl partialFrame
  obtain ⟨after, results, source⟩ := run.1 2 (Nat.le_refl 2)
  refine ⟨steady, partialFrame, ?_, ?_, ?_⟩
  · rw [results]
    rfl
  · rw [results]
    exact congrArg Source.rest source
  · exact run.2

end RecordDecoder

end TickWire
