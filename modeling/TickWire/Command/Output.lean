import TickWire.Command.Options
import TickWire.Stream.Encoder

/-!
# Output of the commands

Records are written as they are encoded, after the metadata, or as one line of text
each.  A file that exists is written over only when that is asked for.  Whether the output
is compressed decides nothing here: the compressor takes what is written, and places and
sinks hold what it takes.
-/

namespace TickWire

/-- What stands where the output goes. -/
inductive OutputPlace
  | absent
  /-- A file, or a stream that was written to, with its contents before they are
  compressed. -/
  | present (contents : Bytes)
  /-- There is no directory to hold a file. -/
  | unreachable
  deriving DecidableEq, Repr

/-- Whether the output can be opened. -/
def OutputOptions.check (options : OutputOptions) (place : OutputPlace) :
    Except CommandError Unit :=
  match options.path?, place with
  | none, _ => .ok ()
  | some _, .absent => .ok ()
  | some _, .present _ =>
    if options.overwrite then .ok () else .error .outputExists
  | some path, .unreachable => .error (.outputUnavailable path)

/-- Output that is open. -/
structure RecordOutput where
  /-- Whether records are written as they are encoded, and not as text. -/
  encoded : Bool
  sink : Sink := {}

namespace RecordOutput

/-- Opens the output; encoded output begins with the metadata. -/
def start (options : OutputOptions) (metadata : Metadata) :
    Except Error Unit × RecordOutput :=
  if options.encoded then
    let shown := { metadata with limit := options.limit.or metadata.limit }
    let (result, sink) := Sink.writeMetadata {} shown
    (result, ⟨true, sink⟩)
  else (.ok (), ⟨false, {}⟩)

/-- A line of text. -/
def writeLine (output : RecordOutput) (context line : String) :
    Except Error Unit × RecordOutput :=
  let (result, sink) := output.sink.write context (textBytes line ++ [0x0A])
  (result, { output with sink })

/-- The text of a record; a frame that is no record of its tag shows its header. -/
def lineOf (frame : Frame) : String :=
  match frame.current with
  | .ok found => Diagnostic.variant found.record
  | .error _ => Diagnostic.header frame.header

/-- Writes the metadata as text; encoded output holds it already. -/
def writeMetadata (output : RecordOutput) (metadata : Metadata) :
    Except Error Unit × RecordOutput :=
  if output.encoded then (.ok (), output)
  else output.writeLine "writing metadata" (Diagnostic.metadata metadata)

/-- Writes a record. -/
def writeFrame (output : RecordOutput) (frame : Frame) :
    Except Error Unit × RecordOutput :=
  if output.encoded then
    let (result, sink) := output.sink.writeFrame frame
    (result, { output with sink })
  else output.writeLine "writing record" (lineOf frame)

/-- Ends the output. -/
def finish (output : RecordOutput) : Except Error Unit := output.sink.flush

end RecordOutput

end TickWire
