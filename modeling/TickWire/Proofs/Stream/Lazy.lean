import Mathlib.Logic.Function.Iterate
import TickWire.Proofs.Record.Upgrade
import TickWire.Proofs.Stream.Source
import TickWire.Stream.Lazy

/-!
# Reading one by one and reading at once

A stream does not keep the record that it read last.  It shows what its decoder shows: the
frame that lies where the decoder remembers that the last one lies, read as a record once
more.  Whatever the source does, that is the record that was read, so a stream gives what
reading all records at once gives, and after that nothing.
-/

namespace TickWire

namespace RecordDecoder

variable {type : RecordType} {decoder after : RecordDecoder}

/-! ## The last frame -/

theorem source_of_accept {received : Bytes} {outcome : Except Error (Option Frame)}
    (accepted : decoder.accept received = (outcome, after)) :
    after.source = decoder.source := by
  simp only [accept] at accepted
  split at accepted <;> cases accepted <;> rfl

/-- A frame that was accepted is the last one, in place and upgraded. -/
theorem last_of_accept {received : Bytes} {frame : Frame}
    (accepted : decoder.accept received = (.ok (some frame), after)) :
    after.last = some frame := by
  simp only [accept] at accepted
  split at accepted
  · cases accepted
  next decoded =>
    cases accepted
    obtain ⟨found, same, framed⟩ | ⟨new, same, -⟩ := inPlace_or_stored decoded
    · cases same
      simp only [last, framed]
      rfl
    · cases same
  next decoded =>
    cases accepted
    obtain ⟨found, same, -⟩ | ⟨new, same, stored⟩ := inPlace_or_stored decoded
    · cases same
    · cases same
      simp only [last, stored, UpgradeBuffer.ofBytes_store]
      rfl

/-- A frame that is read comes from bytes that the source no longer holds. -/
theorem accept_of_next {frame : Frame} (read : decoder.next = (.ok (some frame), after)) :
    ∃ received middle, accept middle received = (.ok (some frame), after) ∧
      decoder.source.rest = received ++ middle.source.rest ∧ received ≠ [] := by
  simp only [next] at read
  split at read
  · cases read
  · cases read
  next lengthByte behindLength readLength =>
    simp only [readFrame] at read
    split at read
    · cases read
    split at read
    · cases read
    next others behind readOthers =>
      obtain ⟨restAtFirst, one⟩ := Source.rest_of_readExact readLength
      obtain ⟨restBehind, -⟩ := Source.rest_of_readExact readOthers
      refine ⟨_, _, read, ?_, ?_⟩
      · rw [List.append_assoc, ← restBehind]
        exact restAtFirst
      · intro empty
        have none := congrArg List.length empty
        rw [List.length_append, one] at none
        simp at none

theorem last_of_next {frame : Frame} (read : decoder.next = (.ok (some frame), after)) :
    after.last = some frame := by
  obtain ⟨received, middle, accepted, -, -⟩ := accept_of_next read
  exact last_of_accept accepted

theorem rest_lt_of_next {frame : Frame} (read : decoder.next = (.ok (some frame), after)) :
    after.source.rest.length < decoder.source.rest.length := by
  obtain ⟨received, middle, accepted, split, nonempty⟩ := accept_of_next read
  have positive := List.length_pos_iff.mpr nonempty
  rw [source_of_accept accepted, split, List.length_append]
  omega

/-- A record is a frame that was read as one. -/
theorem next_of_nextOf {record : Record type}
    (read : decoder.nextOf type = (.ok (some record), after)) :
    ∃ frame, decoder.next = (.ok (some frame), after) ∧ frame.get? type = some record := by
  simp only [nextOf] at read
  split at read
  · cases read
  · cases read
  next frame behind framed =>
    obtain ⟨typed, rfl⟩ := Prod.mk.inj read
    refine ⟨frame, framed, ?_⟩
    cases found : frame.get? type with
    | none => simp [RecordDecoder.typed, found] at typed
    | some other => simpa [RecordDecoder.typed, found] using typed

/-- The record that was read last is what the decoder still shows. -/
theorem last_of_nextOf {record : Record type}
    (read : decoder.nextOf type = (.ok (some record), after)) :
    (after.last.bind fun frame => frame.get? type) = some record := by
  obtain ⟨frame, framed, isRecord⟩ := next_of_nextOf read
  rw [last_of_next framed, Option.bind_some, isRecord]

theorem rest_lt_of_nextOf {record : Record type}
    (read : decoder.nextOf type = (.ok (some record), after)) :
    after.source.rest.length < decoder.source.rest.length := by
  obtain ⟨frame, framed, -⟩ := next_of_nextOf read
  exact rest_lt_of_next framed

/-! ## Reading to the end -/

/-- Records that are read one after the other, until the source ends or something is not a
record, and the decoder that is left. -/
inductive Decodes (type : RecordType) :
    RecordDecoder → List (Record type) → Option Error → RecordDecoder → Prop
  | ended {decoder after : RecordDecoder} (read : decoder.nextOf type = (.ok none, after)) :
      Decodes type decoder [] none after
  | failed {decoder after : RecordDecoder} {error : Error}
      (read : decoder.nextOf type = (.error error, after)) :
      Decodes type decoder [] (some error) after
  | more {decoder middle after : RecordDecoder} {record : Record type}
      {others : List (Record type)} {failure? : Option Error}
      (read : decoder.nextOf type = (.ok (some record), middle))
      (goesOn : Decodes type middle others failure? after) :
      Decodes type decoder (record :: others) failure? after

/-- Every source ends or fails, since every record takes bytes. -/
theorem exists_decodes (type : RecordType) (decoder : RecordDecoder) :
    ∃ records failure? after, Decodes type decoder records failure? after := by
  match read : decoder.nextOf type with
  | (.ok none, after) => exact ⟨[], none, after, .ended read⟩
  | (.error error, after) => exact ⟨[], some error, after, .failed read⟩
  | (.ok (some record), middle) =>
      have fewer := rest_lt_of_nextOf read
      obtain ⟨others, failure?, after, goesOn⟩ := exists_decodes type middle
      exact ⟨record :: others, failure?, after, .more read goesOn⟩
termination_by decoder.source.rest.length

namespace Decodes

variable {records : List (Record type)} {failure? : Option Error}

/-- There are no more records than bytes. -/
theorem length_le (decodes : Decodes type decoder records failure? after) :
    records.length ≤ decoder.source.rest.length := by
  induction decodes with
  | ended | failed => exact Nat.zero_le _
  | more read _ ih => exact Nat.lt_of_le_of_lt ih (rest_lt_of_nextOf read)

theorem recordsWithin_eq (decodes : Decodes type decoder records failure? after) {bound : Nat}
    (enough : records.length < bound) :
    recordsWithin type bound decoder = failure?.elim (.ok records) .error := by
  induction decodes generalizing bound with
  | ended read | failed read =>
      cases bound with
      | zero => contradiction
      | succ bound => rw [recordsWithin, read]; rfl
  | @more _ _ _ _ others failure? read _ ih =>
      cases bound with
      | zero => contradiction
      | succ bound =>
          rw [recordsWithin, read]
          simp only [ih (Nat.lt_of_succ_lt_succ enough)]
          cases failure? <;> rfl

/-- Reading all records at once gives the records, or the error at which they end. -/
theorem records_eq (decodes : Decodes type decoder records failure? after) :
    decoder.records type = failure?.elim (.ok records) .error :=
  decodes.recordsWithin_eq (Nat.lt_succ_of_le decodes.length_le)

end Decodes

end RecordDecoder

namespace RecordStream

open RecordDecoder (Decodes)

variable {type : RecordType} {decoder after : RecordDecoder} {records : List (Record type)}
  {failure? : Option Error} {count : Nat}

/-- A stream that has read so many records and has not ended. -/
def atCount (type : RecordType) (decoder : RecordDecoder) (count : Nat) : RecordStream type :=
  { decoder, count }

/-! ## One step -/

/-- Where a record is left the stream reads it, and shows what its decoder shows. -/
theorem advance_of_decodes_cons {record : Record type} {others : List (Record type)}
    (decodes : Decodes type decoder (record :: others) failure? after) (count : Nat) :
    ∃ middle, (atCount type decoder count).advance = atCount type middle (count + 1) ∧
      (atCount type middle (count + 1)).current = some record ∧
      Decodes type middle others failure? after := by
  cases decodes with
  | @more _ middle _ _ _ _ read goesOn =>
      refine ⟨middle, ?_, ?_, goesOn⟩
      · simp [advance, atCount, read]
      · simpa [current, atCount] using RecordDecoder.last_of_nextOf read

/-- A stream that has ended stays as it is. -/
theorem advance_of_finished {stream : RecordStream type} (finished : stream.finished = true) :
    stream.advance = stream := by
  simp [advance, finished]

/-- Where no record is left the stream ends, and keeps the error if there is one. -/
theorem advance_of_decodes_nil (decodes : Decodes type decoder [] failure? after) (count : Nat) :
    (atCount type decoder count).advance =
      (⟨after, count, true, failure?⟩ : RecordStream type) := by
  cases decodes with
  | ended read | failed read => simp [advance, atCount, read]

/-! ## Many steps -/

/-- While there are records the stream reads one with every step. -/
theorem advances_within (decodes : Decodes type decoder records failure? after)
    (within : count ≤ records.length) :
    ∃ middle, advance^[count] (atCount type decoder 0) = atCount type middle count ∧
      Decodes type middle (records.drop count) failure? after := by
  induction count with
  | zero => exact ⟨decoder, rfl, decodes⟩
  | succ count ih =>
      obtain ⟨middle, reached, goesOn⟩ := ih (Nat.le_of_succ_le within)
      rw [List.drop_eq_getElem_cons within] at goesOn
      obtain ⟨next, step, -, goesOn⟩ := advance_of_decodes_cons goesOn count
      exact ⟨next, by rw [Function.iterate_succ_apply', reached, step], goesOn⟩

/-- After every step the record that was read in it is shown. -/
theorem advances_to_record (decodes : Decodes type decoder records failure? after)
    (present : count < records.length) :
    ∃ middle, advance^[count + 1] (atCount type decoder 0) = atCount type middle (count + 1) ∧
      (atCount type middle (count + 1)).current = some records[count] := by
  obtain ⟨middle, reached, goesOn⟩ := advances_within decodes (Nat.le_of_lt present)
  rw [List.drop_eq_getElem_cons present] at goesOn
  obtain ⟨next, step, shown, -⟩ := advance_of_decodes_cons goesOn count
  exact ⟨next, by rw [Function.iterate_succ_apply', reached, step], shown⟩

/-- All steps after the last record leave the stream where the first of them does. -/
theorem advances_beyond (decodes : Decodes type decoder records failure? after)
    (beyond : records.length < count) :
    advance^[count] (atCount type decoder 0) =
      (⟨after, records.length, true, failure?⟩ : RecordStream type) := by
  obtain ⟨middle, reached, ends⟩ := advances_within decodes (Nat.le_refl _)
  rw [List.drop_length] at ends
  obtain ⟨more, rfl⟩ := Nat.exists_eq_add_of_lt beyond
  rw [Nat.add_assoc, Nat.add_comm, Function.iterate_add_apply, reached,
    Function.iterate_succ_apply, advance_of_decodes_nil ends]
  exact Function.iterate_fixed (advance_of_finished rfl) more

/-- A stream gives the records that are read at once, one with every step, and after them
nothing.  It keeps the error at which they end, and does not read on. -/
theorem lazy_eq_eager (type : RecordType) (decoder : RecordDecoder) :
    ∃ records failure? after, Decodes type decoder records failure? after ∧
      decoder.records type = failure?.elim (.ok records) .error ∧
      ({ decoder } : RecordStream type).current = none ∧
      (∀ index (present : index < records.length),
        let stream : RecordStream type := advance^[index + 1] { decoder }
        stream.current = some records[index] ∧ stream.count = index + 1 ∧
          stream.finished = false ∧ stream.lastError? = none) ∧
      ∀ count, records.length < count →
        let stream : RecordStream type := advance^[count] { decoder }
        stream.current = none ∧ stream.count = records.length ∧ stream.finished = true ∧
          stream.lastError? = failure? ∧ stream.decoder = after := by
  obtain ⟨records, failure?, after, decodes⟩ := RecordDecoder.exists_decodes type decoder
  refine ⟨records, failure?, after, decodes, decodes.records_eq, rfl, ?_, ?_⟩
  · intro index present stream
    obtain ⟨middle, reached, shown⟩ := advances_to_record decodes present
    have given : stream = atCount type middle (index + 1) := reached
    rw [given]
    exact ⟨shown, rfl, rfl, rfl⟩
  · intro count beyond stream
    have ended : stream = ⟨after, records.length, true, failure?⟩ :=
      advances_beyond decodes beyond
    rw [ended]
    exact ⟨rfl, rfl, rfl, rfl, rfl⟩

end RecordStream

end TickWire
