import TickWire.Proofs.Record.Codec
import TickWire.Stream.Encoder

/-!
# Writing to an open sink

A sink that refuses nothing holds what was written to it, in order, and nothing else.
-/

namespace TickWire.Sink

/-- A sink that takes everything. -/
structure IsOpen (sink : Sink) : Prop where
  unlimited : sink.room? = none
  flushes : sink.flushFailure? = none

/-- The sink after more bytes were written. -/
def appended (sink : Sink) (bytes : Bytes) : Sink :=
  { sink with written := sink.written ++ bytes }

variable {sink : Sink}

@[simp] theorem written_appended (sink : Sink) (bytes : Bytes) :
    (sink.appended bytes).written = sink.written ++ bytes := rfl

@[simp] theorem appended_nil (sink : Sink) : sink.appended [] = sink := by
  simp [appended]

@[simp] theorem appended_appended (sink : Sink) (first second : Bytes) :
    (sink.appended first).appended second = sink.appended (first ++ second) := by
  simp [appended]

theorem isOpen_empty : IsOpen {} := ⟨rfl, rfl⟩

namespace IsOpen

theorem appended (isOpen : sink.IsOpen) (bytes : Bytes) : (sink.appended bytes).IsOpen :=
  ⟨isOpen.unlimited, isOpen.flushes⟩

theorem write_run (isOpen : sink.IsOpen) (context : String) (bytes : Bytes) :
    sink.write context bytes = (.ok (), sink.appended bytes) := by
  have fits : sink.fits bytes.length = true := by rw [fits, isOpen.unlimited]
  rw [write, append, if_pos fits]
  rfl

theorem writeFrame_run (isOpen : sink.IsOpen) (frame : Frame) :
    sink.writeFrame frame = (.ok (), sink.appended frame.bytes) :=
  isOpen.write_run _ frame.bytes

theorem flush_run (isOpen : sink.IsOpen) : sink.flush = .ok () := by
  rw [flush, passOn, isOpen.flushes]
  rfl

/-- Records are written one after the other. -/
theorem writeRecords_run {type : RecordType} (isOpen : sink.IsOpen)
    (records : List (Record type)) :
    sink.writeRecords records = (.ok (), sink.appended (records.flatMap Record.toBytes)) := by
  induction records generalizing sink with
  | nil => rw [writeRecords, isOpen.flush_run, List.flatMap_nil, appended_nil]
  | cons record others ih =>
      rw [writeRecords, writeRecord, isOpen.write_run]
      dsimp only
      rw [ih (isOpen.appended _), List.flatMap_cons, appended_appended]

end IsOpen

end TickWire.Sink
