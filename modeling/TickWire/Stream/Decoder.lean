import TickWire.Metadata.Decode
import TickWire.Record.Legacy
import TickWire.Stream.Source

/-!
# Decoding a source

Metadata and records are read from a source one after the other.  A record is framed by
its first byte, which announces its size, so a record that cannot be decoded does not
move the records after it.  `RecordDecoder.next` reads one frame, `nextOf` one record of
a known type and `records` all of them.  The last frame stays visible until the next one
is read, also where it is an upgraded copy.
-/

namespace TickWire

/-- Reads a metadata block. -/
def readMetadata (source : Source) : Except Error Metadata × Source :=
  match source.readExact preludeSize with
  | (.error failure, source) => (.error (.io failure "reading metadata prelude"), source)
  | (.ok start, source) =>
    match decodePrelude start with
    | .error error => (.error error, source)
    | .ok (version, length) =>
      match source.readExact length with
      | (.error failure, source) => (.error (.io failure "reading metadata"), source)
      | (.ok fields, source) => (decodeMetadata version fields, source)

/-- Where the last frame lies: in the bytes that were read, or in the upgraded copy. -/
inductive FramePlace
  | received
  | upgraded
  deriving DecidableEq, Repr

/-- Records that are read from a source. -/
structure RecordDecoder where
  source : Source
  version : UInt8 := formatVersion
  policy : UpgradePolicy := .asIs
  /-- Whether records are followed by the time of sending. -/
  stamped : Bool := false
  /-- The bytes of the frame that was read last. -/
  received : Bytes := []
  upgradeBuffer : UpgradeBuffer := {}
  /-- Where the last frame lies, unless reading it failed. -/
  last? : Option FramePlace := none

namespace RecordDecoder

/-- Records of a version. -/
def ofVersion (source : Source) (version : UInt8) (policy : UpgradePolicy)
    (stamped : Bool) : Except Error RecordDecoder := do
  checkVersion version
  return { source, version, policy, stamped }

/-- Decodes the bytes of a frame that were read. -/
def accept (decoder : RecordDecoder) (received : Bytes) :
    Except Error (Option Frame) × RecordDecoder :=
  let decoder := { decoder with received }
  match decodeFrame decoder.version decoder.policy decoder.stamped decoder.upgradeBuffer 0
      received with
  | .error error => (.error error, decoder)
  | .ok (.inPlace frame, upgradeBuffer) =>
      (.ok (some frame), { decoder with upgradeBuffer, last? := some .received })
  | .ok (.upgraded frame, upgradeBuffer) =>
      (.ok (some frame), { decoder with upgradeBuffer, last? := some .upgraded })

/-- Reads the frame that a length byte announces. -/
def readFrame (decoder : RecordDecoder) (lengthByte : Bytes) :
    Except Error (Option Frame) × RecordDecoder :=
  let size := Header.sizeOfLength (lengthByte.headD 0)
  if size < headerSize then (.error (.invalidLength (.recordBelowHeader size)), decoder)
  else match decoder.source.readExact (size - 1) with
  | (.error failure, source) =>
      (.error (.io failure s!"reading record with length {size}"), { decoder with source })
  | (.ok rest, source) => { decoder with source }.accept (lengthByte ++ rest)

/-- Reads the next frame; none where the source ends before it. -/
def next (decoder : RecordDecoder) : Except Error (Option Frame) × RecordDecoder :=
  let decoder := { decoder with last? := none, received := [] }
  match decoder.source.readExact 1 with
  | (.error .unexpectedEnd, source) => (.ok none, { decoder with source })
  | (.error failure, source) =>
      (.error (.io failure "decoding record length"), { decoder with source })
  | (.ok lengthByte, source) => { decoder with source }.readFrame lengthByte

/-- A frame as a record of a type, or why it is none. -/
def typed (type : RecordType) (frame : Frame) : Except Error (Record type) :=
  match frame.get? type with
  | some record => .ok record
  | none =>
    let rtype := Hex.quotedByte frame.header.rtype
    .error (.conversion s!"record with rtype {rtype} and length {frame.size}" type.path)

/-- Reads the next frame as a record of a type. -/
def nextOf (type : RecordType) (decoder : RecordDecoder) :
    Except Error (Option (Record type)) × RecordDecoder :=
  match decoder.next with
  | (.error error, decoder) => (.error error, decoder)
  | (.ok none, decoder) => (.ok none, decoder)
  | (.ok (some frame), decoder) => ((typed type frame).map some, decoder)

/-- Reads records of a type until the source ends, with a bound on their number. -/
def recordsWithin (type : RecordType) :
    (bound : Nat) → RecordDecoder → Except Error (List (Record type))
  | 0, _ => .ok []
  | bound + 1, decoder =>
    match decoder.nextOf type with
    | (.error error, _) => .error error
    | (.ok none, _) => .ok []
    | (.ok (some record), decoder) => (recordsWithin type bound decoder).map (record :: ·)

/-- Reads all records as records of a type.  Every record takes at least one byte, so
there are no more records than bytes. -/
def records (type : RecordType) (decoder : RecordDecoder) :
    Except Error (List (Record type)) :=
  recordsWithin type (decoder.source.rest.length + 1) decoder

/-- The last frame. -/
def last (decoder : RecordDecoder) : Option Frame :=
  match decoder.last? with
  | none => none
  | some .received => (Frame.ofBytes 0 decoder.received).toOption
  | some .upgraded => (Frame.ofBytes 0 decoder.upgradeBuffer.bytes).toOption

end RecordDecoder

/-- A file: its metadata, and its records. -/
structure FileDecoder where
  metadata : Metadata
  records : RecordDecoder

namespace FileDecoder

/-- Reads the metadata of a file; records are read as the metadata says, and the
metadata is changed as the policy changes the records. -/
def ofSource (source : Source) (policy : UpgradePolicy) : Except Error FileDecoder :=
  match readMetadata source with
  | (.error error, _) => .error error
  | (.ok metadata, source) => do
    let records ← RecordDecoder.ofVersion source metadata.version policy metadata.stamped
    return { metadata := metadata.upgrade policy, records }

end FileDecoder

end TickWire
