import TickWire.Bytes.Hex
import TickWire.Coded
import TickWire.Text.Quoted
import TickWire.Text.Utf8

/-!
# Errors of the data format

Why decoding, encoding or converting fails.  Each constructor is one cause with what
is known about it; `Error.kind` names the family a cause belongs to and
`Error.message` is the one place that words it.
-/

namespace TickWire

/-- The newest version of the format. -/
def formatVersion : UInt8 := 2

/-- The size in bytes of a metadata block before its lists. -/
def metadataFixedSize : Nat := 100

/-- The greatest size in bytes of a metadata block. -/
def metadataMaximumSize : Nat := 64 * 1024 * 1024

/-- Why reading from a source or writing to a sink failed. -/
inductive IoFailure
  /-- The source ended inside a read of known size. -/
  | unexpectedEnd
  /-- The other side of the connection is gone. -/
  | brokenPipe
  /-- Any other reason, in the words of the source or sink. -/
  | other (reason : String)
  deriving DecidableEq, Repr

def IoFailure.message : IoFailure → String
  | .unexpectedEnd => "failed to fill whole buffer"
  | .brokenPipe => "broken pipe"
  | .other reason => reason

/-- A length that cannot be right. -/
inductive LengthFault
  /-- A stretch of bytes holds no record header. -/
  | bufferBelowHeader (length : Nat)
  /-- A record says it is shorter than its header. -/
  | recordBelowHeader (length : Nat)
  /-- A record says it is longer than the bytes that hold it. -/
  | recordBeyondBuffer (length available : Nat)
  /-- A metadata block says it is shorter than its fixed part. -/
  | metadataBelowFixed (length : Nat)
  /-- A metadata block says it is longer than any may be. -/
  | metadataBeyondMaximum (length : Nat)
  deriving DecidableEq, Repr

def LengthFault.message : LengthFault → String
  | .bufferBelowHeader length =>
      s!"invalid buffer length {length}: too short for a record header"
  | .recordBelowHeader length =>
      s!"invalid record length {length}: shorter than the record header"
  | .recordBeyondBuffer length available =>
      s!"invalid record length {length}: exceeds buffer of {available} bytes"
  | .metadataBelowFixed length =>
      s!"invalid metadata length {length}: shorter than the fixed length {metadataFixedSize}"
  | .metadataBeyondMaximum length =>
      s!"invalid metadata length {length}: longer than the maximum {metadataMaximumSize}"

/-- Content of a metadata block that has no meaning. -/
inductive DecodeFault
  | badPrelude (start : Bytes)
  | zeroSymbolWidth
  | schemaDefinition
  | badMonth (month raw : Nat)
  | badDate (raw : Nat)
  deriving DecidableEq, Repr

/-- Items between brackets, separated by commas. -/
def bracketed (items : List String) : String := "[" ++ ", ".intercalate items ++ "]"

def DecodeFault.message : DecodeFault → String
  | .badPrelude start =>
      s!"invalid DBN metadata prelude {bracketed (start.map fun byte => toString byte.toNat)}"
  | .zeroSymbolWidth => "invalid metadata symbol_cstr_len of 0"
  | .schemaDefinition => "this version of dbn can't parse schema definitions"
  | .badMonth month raw => s!"invalid month {month} while parsing {raw} into a date"
  | .badDate raw => s!"couldn't convert {raw} to a valid date"

/-- Text that does not fit its field. -/
inductive EncodeFault
  /-- Text for a field of a record. -/
  | recordText (limit length : Nat)
  /-- Text for a field of a metadata block. -/
  | metadataText (text : String) (width : Nat)
  deriving DecidableEq, Repr

def EncodeFault.message : EncodeFault → String
  | .recordText limit length =>
      s!"string cannot be longer than {limit}; received str of length {length}"
  | .metadataText text width =>
      s!"{Quoted.quote text} is too long for a {width}-byte C string"

/-- An argument that the caller should not have passed. -/
inductive ArgumentFault
  | missingField (name : String)
  | metadataVersion (version : UInt8)
  | unaligned
  | schemaWithoutRecords (raw : Nat)
  deriving DecidableEq, Repr

def ArgumentFault.message : ArgumentFault → String
  | .missingField name => s!"bad argument {name}: required field not set"
  | .metadataVersion version =>
      s!"bad argument version: unsupported DBN version {version.toNat}"
  | .unaligned => "bad argument buffer: must be aligned to 8 bytes"
  | .schemaWithoutRecords raw => s!"bad argument schema: unknown value '{raw}'"

/-- Why decoding, encoding or converting fails. -/
inductive Error
  | io (failure : IoFailure) (context : String)
  | unsupportedVersion (version : UInt8)
  | invalidLength (fault : LengthFault)
  | truncated (field : String) (needed offset available : Nat)
  | recordTooShort (length : Nat) (typeName : String)
  | decode (fault : DecodeFault)
  | encode (fault : EncodeFault)
  | conversion (input target : String)
  | utf8 (fault : Utf8.Fault) (context : String)
  | badArgument (fault : ArgumentFault)
  deriving DecidableEq, Repr

namespace Error

/-- The name of the family that an error belongs to. -/
def kind : Error → String
  | .io .. => "Io"
  | .unsupportedVersion .. => "UnsupportedVersion"
  | .invalidLength .. => "InvalidLength"
  | .truncated .. => "Truncated"
  | .recordTooShort .. => "RecordTooShort"
  | .decode .. => "Decode"
  | .encode .. => "Encode"
  | .conversion .. => "Conversion"
  | .utf8 .. => "Utf8"
  | .badArgument .. => "BadArgument"

/-- What is said of an error. -/
def message : Error → String
  | .io failure context => s!"I/O error while {context}: {failure.message}"
  | .unsupportedVersion version =>
      s!"DBN version {version.toNat} is not supported, expected 1 through {formatVersion.toNat}"
  | .invalidLength fault => fault.message
  | .truncated field needed offset available =>
      s!"unexpected end of metadata while reading {field}: needed {needed} bytes " ++
        s!"at offset {offset} of {available}"
  | .recordTooShort length typeName =>
      s!"record with length {length} is too short for {typeName}"
  | .decode fault => s!"decoding error: {fault.message}"
  | .encode fault => s!"encoding error: {fault.message}"
  | .conversion input target => s!"couldn't convert {input} to {target}"
  | .utf8 fault context => s!"UTF-8 error while {context}: {fault.message}"
  | .badArgument fault => fault.message

/-- A code of one byte that stands for no member, quoted in hexadecimal. -/
def unknownByte (α : Type) [Coded α] (raw : UInt8) : Error :=
  .conversion (Hex.quotedByte raw) (Coded.setPath α)

/-- A code that stands for no member, quoted in decimal. -/
def unknownNumber (α : Type) [Coded α] (raw : Nat) : Error :=
  .conversion (toString raw) (Coded.setPath α)

end Error

/-- The member that a spelling names. -/
def Spelled.parse {α : Type} [Spelled α] (text : String) : Except Error α :=
  match Spelled.ofSpelling? text with
  | some member => .ok member
  | none => .error (.conversion text (Coded.setPath α))

end TickWire
