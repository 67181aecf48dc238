import TickWire.Metadata.Encode
import TickWire.Record.Diagnostic
import TickWire.Stream.Lazy
import TickWire.Stream.Sink

/-!
# Encoding to a sink

Metadata and records are written to a sink, each of them in one write.  Whole streams
are copied until they end, a limit is reached or something fails; what was written until
then is always a row of whole records.
-/

namespace TickWire

namespace Writer

variable {σ : Type} (writer : Writer σ)

/-- Writes a frame as it is.  The context of an error names the frame by its size only.
A frame is otherwise shown by where its bytes lie in memory, with its header behind that;
since the place is no part of the frame, the context is not its text and no result
depends on it. -/
def writeFrame (state : σ) (frame : Frame) : Except Error Unit × σ :=
  let (result, state) := writer.write state frame.bytes
  (result.mapError (.io · s!"serializing a record of {frame.size} bytes"), state)

/-- The end of a copy: everything that was written is passed on. -/
def finish (decoder : RecordDecoder) (state : σ) : Except Error Unit × RecordDecoder × σ :=
  let (result, state) := writer.flush state
  (result.mapError (.io · "flushing output"), decoder, state)

/-- Copies frames until `limit?` of them are written, with a bound on their number. -/
def copyFramesWithin : (bound : Nat) → (limit? : Option Nat) → RecordDecoder → σ →
    Except Error Unit × RecordDecoder × σ
  | 0, _, decoder, state => writer.finish decoder state
  | bound + 1, limit?, decoder, state =>
    match decoder.next with
    | (.error error, decoder) => (.error error, decoder, state)
    | (.ok none, decoder) => writer.finish decoder state
    | (.ok (some frame), decoder) =>
      match writer.writeFrame state frame with
      | (.error error, state) => (.error error, decoder, state)
      | (.ok (), state) =>
        match limit? with
        | none => copyFramesWithin bound none decoder state
        | some limit =>
          if limit ≤ 1 then writer.finish decoder state
          else copyFramesWithin bound (some (limit - 1)) decoder state

/-- Copies frames until the source ends or as many as the limit are written, and
flushes.  Gives the decoder as it was read and what became of the writer. -/
def copyFrames (decoder : RecordDecoder) (limit : Option NonZero) (state : σ) :
    Except Error Unit × RecordDecoder × σ :=
  writer.copyFramesWithin (decoder.source.rest.length + 1)
    (limit.map fun limit => limit.value.toNat) decoder state

end Writer

namespace Sink

/-- Writes a metadata block, or nothing where the metadata cannot be encoded. -/
def writeMetadata (sink : Sink) (metadata : Metadata) : Except Error Unit × Sink :=
  match metadata.encode with
  | .error error => (.error error, sink)
  | .ok bytes => sink.write "writing DBN metadata" bytes

/-- Writes a record. -/
def writeRecord {type : RecordType} (sink : Sink) (record : Record type) :
    Except Error Unit × Sink :=
  sink.write s!"serializing {Diagnostic.record record}" record.toBytes

/-- Writes a frame as it is, with the context that every writer gives an error. -/
def writeFrame (sink : Sink) (frame : Frame) : Except Error Unit × Sink :=
  writer.writeFrame sink frame

/-- Writes records of a type and flushes. -/
def writeRecords {type : RecordType} : Sink → List (Record type) → Except Error Unit × Sink
  | sink, [] => (sink.flush, sink)
  | sink, record :: others =>
    match sink.writeRecord record with
    | (.error error, sink) => (.error error, sink)
    | (.ok (), sink) => writeRecords sink others

/-- Copies frames until the source ends or as many as the limit are written, and
flushes. -/
def copyFrames (sink : Sink) (decoder : RecordDecoder) (limit : Option NonZero) :
    Except Error Unit × Sink :=
  let (result, _, sink) := writer.copyFrames decoder limit sink
  (result, sink)

/-- Copies the records of a stream, with a bound on their number. -/
def copyStreamWithin {type : RecordType} :
    (bound : Nat) → RecordStream type → Sink → Except Error Unit × Sink
  | 0, _, sink => (sink.flush, sink)
  | bound + 1, stream, sink =>
    match stream.next with
    | (none, _) => (sink.flush, sink)
    | (some record, stream) =>
      match sink.writeRecord record with
      | (.error error, sink) => (.error error, sink)
      | (.ok (), sink) => copyStreamWithin bound stream sink

/-- Copies the records of a stream until it ends, and flushes. -/
def copyStream {type : RecordType} (sink : Sink) (stream : RecordStream type) :
    Except Error Unit × Sink :=
  copyStreamWithin (stream.decoder.source.rest.length + 1) stream sink

end Sink

end TickWire
