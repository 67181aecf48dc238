import TickWire.Error
import TickWire.Record.Diagnostic
import TickWire.Record.Kind
import TickWire.Time.Date
import TickWire.Time.Timestamp

/-!
# Metadata

What stands before the records of a file or a session: which data was asked for, over
which range of time, and which symbols it names.
-/

namespace TickWire

/-- A 64-bit number other than zero. -/
structure NonZero where
  value : UInt64
  ne_zero : value ≠ 0
  deriving DecidableEq

/-- The number, unless it is zero. -/
def NonZero.of? (value : UInt64) : Option NonZero :=
  if nonzero : value ≠ 0 then some ⟨value, nonzero⟩ else none

theorem NonZero.toNat_pos (number : NonZero) : 0 < number.value.toNat := by
  apply Nat.pos_of_ne_zero
  intro zero
  exact number.ne_zero (UInt64.toNat_inj.mp zero)

theorem NonZero.map_toNat_ne_zero (number? : Option NonZero) :
    (number?.map fun number => number.value.toNat) ≠ some 0 := by
  intro zero
  obtain ⟨number, -, isZero⟩ := Option.map_eq_some_iff.mp zero
  exact Nat.ne_of_gt number.toNat_pos isZero

/-- What a symbol stands for from one date until another. -/
structure MappingInterval where
  startDate : Date
  endDate : Date
  symbol : String
  deriving DecidableEq

/-- Whether a date lies in the interval; the last date is not part of it. -/
def MappingInterval.covers (interval : MappingInterval) (date : Date) : Bool :=
  !date.before interval.startDate && date.before interval.endDate

/-- The intervals over which a symbol was resolved. -/
structure SymbolMapping where
  rawSymbol : String
  intervals : List MappingInterval
  deriving DecidableEq

/-- What stands before the records. -/
structure Metadata where
  version : UInt8
  dataset : String
  /-- None where the records are of more than one schema. -/
  schema : Option Schema
  startTime : UInt64
  /-- None where the range of time is open. -/
  endTime : Option NonZero
  /-- The greatest number of records, if there is one. -/
  limit : Option NonZero
  symbologyIn : Option Symbology
  symbologyOut : Symbology
  /-- Whether records are followed by the time of sending. -/
  stamped : Bool
  /-- The size of symbol fields in bytes. -/
  symbolWidth : Nat
  symbols : List String
  /-- Symbols that were not resolved for every date of the range. -/
  partiallyFound : List String
  /-- Symbols that were not resolved for any date of the range. -/
  notFound : List String
  mappings : List SymbolMapping
  deriving DecidableEq

namespace Metadata

/-- The metadata of the same records after they were decoded under a policy. -/
def upgrade (policy : UpgradePolicy) (metadata : Metadata) : Metadata :=
  if metadata.version < formatVersion then
    match policy with
    | .asIs => { metadata with symbolWidth := symbolWidthOf metadata.version }
    | .upgrade => { metadata with
        version := formatVersion
        symbolWidth := TickWire.symbolWidth }
  else metadata

/-- The symbol that a symbol stands for on a date: of the first mapping of the symbol,
the first interval that covers the date. -/
def resolve (metadata : Metadata) (rawSymbol : String) (date : Date) : Option String :=
  match metadata.mappings.find? fun mapping => mapping.rawSymbol == rawSymbol with
  | none => none
  | some mapping => (mapping.intervals.find? fun interval => interval.covers date).map (·.symbol)

/-- The calendar time at which the range begins. -/
def startCivil? (metadata : Metadata) : Option CivilTime :=
  Timestamp.civil? ⟨metadata.startTime⟩

/-- The calendar time at which the range ends. -/
def endCivil? (metadata : Metadata) : Option CivilTime :=
  metadata.endTime.bind fun time => Timestamp.civil? ⟨time.value⟩

end Metadata

/-- Metadata in the making. -/
structure MetadataDraft where
  version : UInt8 := formatVersion
  dataset? : Option String := none
  schema? : Option (Option Schema) := none
  startTime? : Option UInt64 := none
  endTime : Option NonZero := none
  limit : Option NonZero := none
  symbologyIn? : Option (Option Symbology) := none
  symbologyOut? : Option Symbology := none
  stamped : Bool := false
  symbols : List String := []
  partiallyFound : List String := []
  notFound : List String := []
  mappings : List SymbolMapping := []

namespace MetadataDraft

/-- The value of a field that has to be set. -/
def required {α : Type} (name : String) : Option α → Except Error α
  | some value => .ok value
  | none => .error (.badArgument (.missingField name))

/-- The metadata, once every required field is set. -/
def build (draft : MetadataDraft) : Except Error Metadata := do
  if draft.version = 0 ∨ formatVersion < draft.version then
    throw (.badArgument (.metadataVersion draft.version))
  return {
    version := draft.version
    dataset := ← required "dataset" draft.dataset?
    schema := ← required "schema" draft.schema?
    startTime := ← required "start" draft.startTime?
    endTime := draft.endTime
    limit := draft.limit
    symbologyIn := ← required "stype_in" draft.symbologyIn?
    symbologyOut := ← required "stype_out" draft.symbologyOut?
    stamped := draft.stamped
    symbolWidth := symbolWidthOf draft.version
    symbols := draft.symbols
    partiallyFound := draft.partiallyFound
    notFound := draft.notFound
    mappings := draft.mappings }

end MetadataDraft

namespace Diagnostic

/-- Quoted texts between brackets. -/
def quotedList (texts : List String) : String := bracketed (texts.map Quoted.quote)

def interval (interval : MappingInterval) : String :=
  braced "MappingInterval"
    [("start_date", interval.startDate.text), ("end_date", interval.endDate.text),
      ("symbol", Quoted.quote interval.symbol)]

def mapping (mapping : SymbolMapping) : String :=
  braced "SymbolMapping"
    [("raw_symbol", Quoted.quote mapping.rawSymbol),
      ("intervals", bracketed (mapping.intervals.map interval))]

def nonZero (number : Option NonZero) : String :=
  optional (number.map fun number => toString number.value.toNat)

/-- Metadata with every field by name. -/
def metadata (metadata : Metadata) : String :=
  braced "Metadata"
    [("version", toString metadata.version.toNat),
      ("dataset", Quoted.quote metadata.dataset),
      ("schema", optional (metadata.schema.map Coded.name)),
      ("start", toString metadata.startTime.toNat),
      ("end", nonZero metadata.endTime),
      ("limit", nonZero metadata.limit),
      ("stype_in", optional (metadata.symbologyIn.map Coded.name)),
      ("stype_out", Coded.name metadata.symbologyOut),
      ("ts_out", flag metadata.stamped),
      ("symbol_cstr_len", toString metadata.symbolWidth),
      ("symbols", quotedList metadata.symbols),
      ("partial", quotedList metadata.partiallyFound),
      ("not_found", quotedList metadata.notFound),
      ("mappings", bracketed (metadata.mappings.map mapping))]

end Diagnostic

end TickWire
