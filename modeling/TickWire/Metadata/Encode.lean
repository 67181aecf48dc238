import TickWire.Metadata.Decode
import TickWire.Stream.Cursor

/-!
# Writing metadata

A metadata block from its fields, and the replacement of the range of time and the
limit in a block that is already written.
-/

namespace TickWire

/-- The record count that stands for none. -/
def nullRecordCount : Nat := 0xFFFFFFFFFFFFFFFF

/-- The offset of the range of time in a file. -/
def queryRangeOffset : Nat := preludeSize + datasetWidth + 2

/-- A text in a field of `width` bytes, followed by at least one zero byte. -/
def fixedText (width : Nat) (text : String) : Except Error Bytes :=
  if !text.toList.all (fun char => decide (char.toNat < 0x80)) then
    .error (.conversion text "ASCII")
  else if width ≤ textLength text then .error (.encode (.metadataText text width))
  else .ok (textBytes text ++ List.replicate (width - textLength text) 0)

/-- A number in `width` bytes, if it fits. -/
def fixedNumber (width : Nat) (typeName : String) (number : Nat) : Except Error Bytes :=
  if number < LittleEndian.capacity width then .ok (LittleEndian.encode width number)
  else .error (.conversion (toString number) typeName)

/-- The number of elements of a list. -/
def countBytes (count : Nat) : Except Error Bytes := fixedNumber 4 "u32" count

/-- The range of time and the limit. -/
def queryRange (version : UInt8) (startTime : UInt64) (endTime limit : Option NonZero) :
    Bytes :=
  LittleEndian.encode 8 startTime.toNat
    ++ LittleEndian.encode 8 (endTime.elim nullEndTime fun time => time.value.toNat)
    ++ LittleEndian.encode 8 (limit.elim 0 fun limit => limit.value.toNat)
    ++ if version = 1 then LittleEndian.encode 8 nullRecordCount else []

/-- Texts in fields of `width` bytes, one after the other. -/
def fixedTexts (width : Nat) : List String → Except Error Bytes
  | [] => .ok []
  | first :: others => do
      let head ← fixedText width first
      let tail ← fixedTexts width others
      return head ++ tail

/-- A list of texts, its number of texts first. -/
def textList (width : Nat) (texts : List String) : Except Error Bytes := do
  let count ← countBytes texts.length
  let bytes ← fixedTexts width texts
  return count ++ bytes

/-- Intervals one after the other. -/
def intervalList (width : Nat) : List MappingInterval → Except Error Bytes
  | [] => .ok []
  | first :: others => do
      let symbol ← fixedText width first.symbol
      let tail ← intervalList width others
      return LittleEndian.encode 4 first.startDate.packed
        ++ LittleEndian.encode 4 first.endDate.packed ++ symbol ++ tail

/-- Mappings one after the other. -/
def mappingList (width : Nat) : List SymbolMapping → Except Error Bytes
  | [] => .ok []
  | first :: others => do
      let rawSymbol ← fixedText width first.rawSymbol
      let count ← countBytes first.intervals.length
      let intervals ← intervalList width first.intervals
      let tail ← mappingList width others
      return rawSymbol ++ count ++ intervals ++ tail

namespace Metadata

/-- The version that is written; version 0 is an old name of version 1. -/
def writtenVersion (metadata : Metadata) : UInt8 := max metadata.version 1

/-- The size of symbol fields, which version 1 does not store. -/
def symbolWidthBytes (metadata : Metadata) : Except Error Bytes :=
  if metadata.version = 1 then .ok [] else fixedNumber 2 "u16" metadata.symbolWidth

/-- The part of a metadata block after its prelude. -/
def encodeFields (metadata : Metadata) : Except Error Bytes := do
  let width := metadata.symbolWidth
  let dataset ← fixedText datasetWidth metadata.dataset
  let storedWidth ← metadata.symbolWidthBytes
  let symbols ← textList width metadata.symbols
  let partiallyFound ← textList width metadata.partiallyFound
  let notFound ← textList width metadata.notFound
  let mappingCount ← countBytes metadata.mappings.length
  let mappings ← mappingList width metadata.mappings
  return dataset
    ++ LittleEndian.encode 2 (metadata.schema.elim nullSchema Coded.code)
    ++ queryRange metadata.version metadata.startTime metadata.endTime metadata.limit
    ++ LittleEndian.encode 1 (metadata.symbologyIn.elim nullSymbology Coded.code)
    ++ LittleEndian.encode 1 (Coded.code metadata.symbologyOut)
    ++ LittleEndian.encode 1 (if metadata.stamped then 1 else 0)
    ++ storedWidth
    ++ List.replicate (reservedSize metadata.version) 0
    ++ LittleEndian.encode 4 0
    ++ symbols ++ partiallyFound ++ notFound ++ mappingCount ++ mappings

/-- A whole metadata block. -/
def encode (metadata : Metadata) : Except Error Bytes := do
  if formatVersion < metadata.version then
    throw (.unsupportedVersion metadata.version)
  let fields ← metadata.encodeFields
  let length ← fixedNumber 4 "u32" fields.length
  return formatLetters ++ [metadata.writtenVersion] ++ length ++ fields

end Metadata

/-- Puts another range of time and limit into a file and goes to its end. -/
def updateQueryRange (version : UInt8) (startTime : UInt64)
    (endTime limit : Option NonZero) (file : Cursor) : Cursor :=
  ((file.seek queryRangeOffset).write
    (queryRange version startTime endTime limit)).seekEnd

end TickWire
