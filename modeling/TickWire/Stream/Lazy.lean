import TickWire.Stream.Decoder

/-!
# Reading records one by one

A stream of records of one type that are read when they are asked for.  The stream ends
where the source ends or at the first error, which it keeps.
-/

namespace TickWire

/-- Records of a type, read one by one. -/
structure RecordStream (type : RecordType) where
  decoder : RecordDecoder
  /-- The number of records that were read. -/
  count : Nat := 0
  finished : Bool := false
  lastError? : Option Error := none

namespace RecordStream

variable {type : RecordType}

/-- Reads the next record, unless the stream has ended. -/
def advance (stream : RecordStream type) : RecordStream type :=
  if stream.finished then stream
  else match stream.decoder.nextOf type with
  | (.error error, decoder) =>
      { stream with decoder, finished := true, lastError? := some error }
  | (.ok none, decoder) => { stream with decoder, finished := true }
  | (.ok (some _), decoder) => { stream with decoder, count := stream.count + 1 }

/-- The record that was read last, while the stream has not ended. -/
def current (stream : RecordStream type) : Option (Record type) :=
  if stream.finished ∨ stream.count = 0 then none
  else stream.decoder.last.bind fun frame => frame.get? type

/-- Reads the next record and shows it. -/
def next (stream : RecordStream type) : Option (Record type) × RecordStream type :=
  (stream.advance.current, stream.advance)

end RecordStream

end TickWire
