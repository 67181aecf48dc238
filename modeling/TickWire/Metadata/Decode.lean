import TickWire.Metadata.Basic

/-!
# Reading metadata

A metadata block begins with a prelude of eight bytes: three letters, the version and
the size of the rest.  The rest is a fixed part and four lists.  A reader walks through
the bytes and knows where it stands, so that a block which ends too early is reported
with the field, the offset and the size of what is missing.
-/

namespace TickWire

/-- The letters that a file or session begins with. -/
def formatLetters : Bytes := [0x44, 0x42, 0x4E]

/-- The size of the prelude of a metadata block. -/
def preludeSize : Nat := 8

/-- The size of the dataset field. -/
def datasetWidth : Nat := 16

/-- The schema code that stands for no schema. -/
def nullSchema : Nat := 0xFFFF

/-- The symbology code that stands for no symbology. -/
def nullSymbology : Nat := 0xFF

/-- The end time that stands for none. -/
def nullEndTime : Nat := 0xFFFFFFFFFFFFFFFF

/-- The size of the unused part of a block of a version. -/
def reservedSize (version : UInt8) : Nat := if version = 1 then 47 else 53

/-- Whether a version of the format can be read. -/
def isSupported (version : UInt8) : Bool := decide (1 ≤ version ∧ version ≤ formatVersion)

/-- Whether bytes begin as a file of a supported version does. -/
def startsAsFile (bytes : Bytes) : Bool :=
  bytes.take 3 == formatLetters && match bytes.drop 3 with
    | version :: _ => isSupported version
    | [] => false

def checkVersion (version : UInt8) : Except Error Unit :=
  if isSupported version then .ok () else .error (.unsupportedVersion version)

/-- Reads the version and the size of the rest from a prelude. -/
def decodePrelude (bytes : Bytes) : Except Error (UInt8 × Nat) := do
  if bytes.take 3 ≠ formatLetters then throw (.decode (.badPrelude (bytes.take 3)))
  let version := (bytes.drop 3).headD 0
  checkVersion version
  let length := LittleEndian.decode ((bytes.drop 4).take 4)
  if length < metadataFixedSize then
    throw (.invalidLength (.metadataBelowFixed length))
  if metadataMaximumSize < length then
    throw (.invalidLength (.metadataBeyondMaximum length))
  return (version, length)

/-- A place in a block and the bytes from there on. -/
structure BlockPosition where
  offset : Nat
  rest : Bytes

/-- A step through a block. -/
abbrev BlockReader := StateT BlockPosition (Except Error)

namespace BlockReader

/-- Takes the next bytes. -/
def take (count : Nat) (field : String) : BlockReader Bytes := fun position =>
  if count ≤ position.rest.length then
    .ok (position.rest.take count,
      ⟨position.offset + count, position.rest.drop count⟩)
  else .error (.truncated field count position.offset
    (position.offset + position.rest.length))

/-- Takes a number of `width` bytes. -/
def number (width : Nat) (field : String) : BlockReader Nat := do
  return LittleEndian.decode (← take width field)

/-- The text before the first zero byte. -/
def textOf (field : String) (bytes : Bytes) : Except Error String :=
  match Utf8.decode (bytes.takeWhile (· ≠ 0)) with
  | .ok chars => .ok (String.ofList chars)
  | .error fault => .error (.utf8 fault s!"decoding {field}")

/-- Takes a text field of `width` bytes. -/
def text (width : Nat) (field : String) : BlockReader String := do
  let bytes ← take width field
  textOf field bytes

/-- The member that a code stands for. -/
def member (α : Type) [Coded α] (code : Nat) : Except Error α :=
  match Coded.ofCode? code with
  | some member => .ok member
  | none => .error (Error.unknownNumber α code)

/-- The texts of fields of `width` bytes that lie one after the other. -/
def textsOf (width : Nat) (field : String) :
    (count index : Nat) → Bytes → Except Error (List String)
  | 0, _, _ => .ok []
  | count + 1, index, bytes => do
      let first ← textOf s!"{field} at index {index}" (bytes.take width)
      let others ← textsOf width field count (index + 1) (bytes.drop width)
      return first :: others

/-- Takes a list of texts, its number of texts first. -/
def texts (width : Nat) (field : String) : BlockReader (List String) := do
  let count ← number 4 field
  let bytes ← take (count * width) field
  textsOf width field count 0 bytes

/-- The date whose digits a number packs. -/
def dateOf (raw : Nat) : Except Error Date :=
  let month := raw / 100 % 100
  if month < 1 ∨ 12 < month then .error (.decode (.badMonth month raw))
  else match Date.ofPacked? raw with
    | some date => .ok date
    | none => .error (.decode (.badDate raw))

/-- Takes a packed date. -/
def date (field : String) : BlockReader Date := do
  let raw ← number 4 field
  dateOf raw

/-- Takes the intervals of a mapping. -/
def intervals (width : Nat) (rawSymbol : String) :
    (count index : Nat) → BlockReader (List MappingInterval)
  | 0, _ => pure []
  | count + 1, index => do
      let startDate ← date "mapping interval start_date"
      let endDate ← date "mapping interval end_date"
      let symbol ← text width s!"mapping interval symbol at index {index} of '{rawSymbol}'"
      let others ← intervals width rawSymbol count (index + 1)
      return ⟨startDate, endDate, symbol⟩ :: others

/-- Takes mappings. -/
def mappings (width : Nat) : (count index : Nat) → BlockReader (List SymbolMapping)
  | 0, _ => pure []
  | count + 1, index => do
      let rawSymbol ← text width s!"mapping raw symbol at index {index}"
      let intervalCount ← number 4 "mapping interval_count"
      let intervals ← intervals width rawSymbol intervalCount 0
      let others ← mappings width count (index + 1)
      return ⟨rawSymbol, intervals⟩ :: others

/-- Takes a code, one of which stands for none. -/
def optionalMember (α : Type) [Coded α] (width null : Nat) (field : String) :
    BlockReader (Option α) := do
  let code ← number width field
  if code = null then return none
  let member ← member α code
  return some member

/-- Takes the size of symbol fields, which version 1 does not store. -/
def symbolWidth (version : UInt8) : BlockReader Nat := do
  let width ← if version = 1 then pure symbolWidthV1 else number 2 "symbol_cstr_len"
  if width = 0 then throw (.decode .zeroSymbolWidth)
  return width

/-- Takes all fields of a block. -/
def metadata (version : UInt8) : BlockReader Metadata := do
  let dataset ← text datasetWidth "dataset"
  let schema ← optionalMember Schema 2 nullSchema "schema"
  let startTime ← number 8 "start"
  let endTime ← number 8 "end"
  let limit ← number 8 "limit"
  if version = 1 then let _ ← take 8 "record_count"
  let symbologyIn ← optionalMember Symbology 1 nullSymbology "stype_in"
  let symbologyOut ← number 1 "stype_out"
  let symbologyOut ← member Symbology symbologyOut
  let stamped ← number 1 "ts_out"
  let width ← symbolWidth version
  let _ ← take (reservedSize version) "reserved"
  let definitionLength ← number 4 "schema_definition_length"
  if definitionLength ≠ 0 then throw (.decode .schemaDefinition)
  let symbols ← texts width "symbols"
  let partiallyFound ← texts width "partial"
  let notFound ← texts width "not_found"
  let mappingCount ← number 4 "mappings"
  let mappings ← mappings width mappingCount 0
  return {
    version, dataset, schema
    startTime := UInt64.ofNat startTime
    endTime := if endTime = nullEndTime then none else NonZero.of? (UInt64.ofNat endTime)
    limit := NonZero.of? (UInt64.ofNat limit)
    symbologyIn, symbologyOut
    stamped := stamped != 0
    symbolWidth := width
    symbols, partiallyFound, notFound, mappings }

end BlockReader

/-- Reads the part of a metadata block after its prelude. -/
def decodeMetadata (version : UInt8) (bytes : Bytes) : Except Error Metadata := do
  checkVersion version
  let (metadata, _) ← BlockReader.metadata version ⟨0, bytes⟩
  return metadata

end TickWire
