import TickWire.Command.Output

/-!
# Replaying a file

The command that reads a file and writes its records, or those of one schema, up to a
limit.  No record after the last one that is wanted is read.
-/

namespace TickWire

/-! ## Files that are read -/

namespace CompressedFrame

/-- The bytes that a compressed frame begins with. -/
def letters : Bytes := [0x28, 0xB5, 0x2F, 0xFD]

/-- The bytes that a frame which is skipped begins with, after its first byte. -/
def skippedLetters : Bytes := [0x2A, 0x4D, 0x18]

/-- Whether bytes end before they show that they are no compressed frame. -/
def mayBegin : Bytes → Bool
  | [] => true
  | first :: rest =>
    decide (first :: rest = letters.take (rest.length + 1))
      || decide (first &&& 0xF0 = 0x50 ∧ rest = skippedLetters.take rest.length)

/-- Why bytes that are no compressed frames are refused, in the words of the decompressor
that the commands come with. -/
def refusal (bytes : Bytes) : IoFailure :=
  .other (if mayBegin bytes then "incomplete frame" else "Unknown frame descriptor")

end CompressedFrame

/-- A file that is read.  What a decompressor makes of it is part of the file, since
decompressing is left to a library: the bytes of a compressed file are those behind the
decompressor, and a file that is not compressed says why a decompressor refuses it. -/
structure InputFile where
  /-- The bytes, after they were decompressed if the file is compressed. -/
  bytes : Bytes
  compressed : Bool := false
  /-- Why a decompressor refuses the file, if it is not compressed. -/
  refusal : IoFailure := CompressedFrame.refusal bytes

/-- The bytes of a file as they are decoded.  A file that does not begin as one of a
supported version does is taken for a compressed one. -/
def InputFile.source (file : InputFile) : Source :=
  if file.compressed ∨ startsAsFile file.bytes then { rest := file.bytes }
  else { rest := file.bytes, fault? := some ⟨0, file.refusal⟩ }

/-! ## Replaying -/

/-- Whether a record has a tag, or no tag is asked for. -/
def isWanted (tag? : Option RecordTag) (frame : Frame) : Bool :=
  match tag? with
  | none => true
  | some tag => tag.byte == frame.header.rtype

/-- Writes the records that are wanted until `remaining?` of them are written, with a
bound on the number of records that are read. -/
def replayRecords (tag? : Option RecordTag) : (bound : Nat) → (remaining? : Option Nat) →
    RecordDecoder → RecordOutput → Except Error Unit × RecordOutput
  | 0, _, _, output => (output.finish, output)
  | bound + 1, remaining?, decoder, output =>
    match decoder.next with
    | (.error error, _) => (.error error, output)
    | (.ok none, _) => (output.finish, output)
    | (.ok (some frame), decoder) =>
      if isWanted tag? frame then
        match output.writeFrame frame with
        | (.error error, output) => (.error error, output)
        | (.ok (), output) =>
          match remaining? with
          | none => replayRecords tag? bound none decoder output
          | some remaining =>
            if remaining ≤ 1 then (output.finish, output)
            else replayRecords tag? bound (some (remaining - 1)) decoder output
      else replayRecords tag? bound remaining? decoder output

/-- Writes what is wanted of a file to an output that can be opened. -/
def replayInto (options : ReplayOptions) (tag? : Option RecordTag) (metadata : Metadata)
    (decoder : RecordDecoder) : Except Error Unit × RecordOutput :=
  match RecordOutput.start options.output metadata with
  | (.error error, output) => (.error error, output)
  | (.ok (), output) =>
    if options.metadataOnly then
      match output.writeMetadata metadata with
      | (.error error, output) => (.error error, output)
      | (.ok (), output) => (output.finish, output)
    else
      replayRecords tag? (decoder.source.rest.length + 1)
        (options.output.limit.map fun limit => limit.value.toNat) decoder output

/-- What a replay needs before it opens the output: the file, and the tag and the
metadata of the records that are wanted. -/
def prepareReplay (options : ReplayOptions) (file : InputFile) :
    Except Error (Option RecordTag × Metadata × RecordDecoder) := do
  let decoder ← FileDecoder.ofSource file.source options.output.policy
  match options.schema? with
  | none => return (none, decoder.metadata, decoder.records)
  | some schema =>
    let tag ← schema.tag
    return (some tag, { decoder.metadata with schema := some schema }, decoder.records)

/-- Replays a file; `none` stands for a file that is missing.  What was written before
an error stays.  The place holds it before it is compressed. -/
def replay (options : ReplayOptions) (file? : Option InputFile) (place : OutputPlace) :
    Except CommandError Unit × OutputPlace :=
  match file? with
  | none => (.error (.inputUnavailable options.input), place)
  | some file =>
    match prepareReplay options file with
    | .error error => (.error (.format error), place)
    | .ok (tag?, metadata, decoder) =>
      match options.output.check place with
      | .error error => (.error error, place)
      | .ok () =>
        let (result, output) := replayInto options tag? metadata decoder
        (result.mapError .format, .present output.sink.written)

/-- Why a file that is missing cannot be decoded. -/
def openFailure (path : String) (compressed : Bool) : Error :=
  let described := if compressed then "Zstandard-compressed DBN file" else "DBN file"
  .io (.other "No such file or directory (os error 2)")
    s!"opening {described} at path '{path}'"

end TickWire
