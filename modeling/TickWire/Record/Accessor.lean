import TickWire.Market
import TickWire.Record.Basic
import TickWire.Text.Terminated

/-!
# Interpreted fields

What the raw fields of a record mean: members of enumerations, times, spans of time
and text.  Each kind of record lists which of its fields are interpreted and how.
-/

namespace TickWire

/-- How a raw field is interpreted. -/
inductive Meaning
  | side
  | action
  | instrumentClass
  | matchAlgorithm
  | definitionUpdate
  | userDefined
  | statType
  | statUpdate
  | symbology
  | time
  | span
  | text
  /-- Whether a message is a sign of life and nothing else. -/
  | heartbeat
  deriving DecidableEq, Repr

/-- An interpreted field. -/
structure Accessor where
  name : String
  field : String
  meaning : Meaning

/-- What an interpreted field holds. -/
inductive Interpreted
  /-- The name of a member of an enumeration, or a text. -/
  | words (value : Except Error String)
  | time (value : Option CivilTime)
  /-- A span in whole seconds and nanoseconds of the same sign. -/
  | span (seconds nanoseconds : Int)
  | flag (value : Bool)

/-- The message that is a sign of life. -/
def heartbeatText : String := "Heartbeat"

namespace Meaning

/-- The name of the member that a byte stands for. -/
def ofByte (α : Type) [Coded α] (raw : Int) : Except Error String :=
  let byte := UInt8.ofInt raw
  match (Coded.ofCode? byte.toNat : Option α) with
  | some member => .ok (Coded.name member)
  | none => .error (Error.unknownByte α byte)

/-- The name of the member that a number stands for. -/
def ofNumber (α : Type) [Coded α] (raw : Int) : Except Error String :=
  match (Coded.ofCode? raw.toNat : Option α) with
  | some member => .ok (Coded.name member)
  | none => .error (Error.unknownNumber α raw.toNat)

/-- Interprets an integer. -/
def ofInt (raw : Int) : Meaning → Interpreted
  | side => .words (ofByte Side raw)
  | action => .words (ofByte Action raw)
  | instrumentClass => .words (ofByte InstrumentClass raw)
  | matchAlgorithm => .words (ofByte MatchAlgorithm raw)
  | definitionUpdate => .words (ofByte DefinitionUpdate raw)
  | userDefined => .words (ofByte UserDefined raw)
  | statType => .words (ofNumber StatType raw)
  | statUpdate => .words (ofNumber StatUpdate raw)
  | symbology => .words (ofNumber Symbology raw)
  | time => .time (Timestamp.civil? ⟨UInt64.ofNat raw.toNat⟩)
  | span => .span (raw.tdiv 1000000000) (raw.tmod 1000000000)
  | text | heartbeat => .flag false

/-- Interprets the bytes of a text. -/
def ofText (bytes : Bytes) : Meaning → Interpreted
  | .heartbeat => .flag (match Terminated.read bytes with
      | .ok message => message == heartbeatText
      | .error _ => false)
  | _ => .words (Terminated.read bytes)

end Meaning

namespace RecordKind

/-- The interpreted fields of an event of the order book. -/
def bookAccessors : List Accessor :=
  [⟨"side", "side", .side⟩, ⟨"action", "action", .action⟩, ⟨"ts_recv", "ts_recv", .time⟩,
    ⟨"ts_in_delta", "ts_in_delta", .span⟩]

/-- The names of the interpreted texts of a definition. -/
def definitionTexts : List String :=
  ["currency", "settl_currency", "raw_symbol", "group", "exchange", "asset", "cfi",
    "security_type", "unit_of_measure", "underlying", "strike_price_currency"]

/-- The interpreted fields of a kind. -/
def accessors : RecordKind → List Accessor
  | .mbo | .trade | .mbp1 | .mbp10 => bookAccessors
  | .ohlcv => []
  | .instrumentDef =>
      [⟨"ts_recv", "ts_recv", .time⟩, ⟨"expiration", "expiration", .time⟩,
        ⟨"activation", "activation", .time⟩]
        ++ definitionTexts.map (fun name => ⟨name, name, .text⟩)
        ++ [⟨"instrument_class", "instrument_class", .instrumentClass⟩,
          ⟨"match_algorithm", "match_algorithm", .matchAlgorithm⟩,
          ⟨"security_update_action", "security_update_action", .definitionUpdate⟩,
          ⟨"user_defined_instrument", "user_defined_instrument", .userDefined⟩]
  | .imbalance => [⟨"ts_recv", "ts_recv", .time⟩, ⟨"side", "side", .side⟩]
  | .stat =>
      [⟨"ts_recv", "ts_recv", .time⟩, ⟨"ts_ref", "ts_ref", .time⟩,
        ⟨"stat_type", "stat_type", .statType⟩,
        ⟨"update_action", "update_action", .statUpdate⟩]
  | .error | .errorV1 => [⟨"err", "err", .text⟩]
  | .symbolMapping =>
      [⟨"stype_in", "stype_in", .symbology⟩, ⟨"stype_out", "stype_out", .symbology⟩,
        ⟨"stype_in_symbol", "stype_in_symbol", .text⟩,
        ⟨"stype_out_symbol", "stype_out_symbol", .text⟩,
        ⟨"start_ts", "start_ts", .time⟩, ⟨"end_ts", "end_ts", .time⟩]
  | .symbolMappingV1 =>
      [⟨"stype_in_symbol", "stype_in_symbol", .text⟩,
        ⟨"stype_out_symbol", "stype_out_symbol", .text⟩, ⟨"start_ts", "start_ts", .time⟩]
  | .system => [⟨"msg", "msg", .text⟩, ⟨"is_heartbeat", "msg", .heartbeat⟩]
  | .systemV1 => [⟨"msg", "msg", .text⟩]
  | .instrumentDefV1 => [⟨"raw_symbol", "raw_symbol", .text⟩]

end RecordKind

namespace Record

variable {type : RecordType}

/-- The text in the field of a name. -/
def readText (record : Record type) (name : String) : Except Error String :=
  Terminated.read ((record.text? name).getD [])

/-- What an accessor finds in a record. -/
def interpret (record : Record type) (accessor : Accessor) : Interpreted :=
  match record.int? accessor.field with
  | some raw => accessor.meaning.ofInt raw
  | none => accessor.meaning.ofText ((record.text? accessor.field).getD [])

/-- Every interpreted field of a record by name; the time of sending is one of them. -/
def interpreted (record : Record type) : List (String × Interpreted) :=
  type.kind.accessors.map (fun accessor => (accessor.name, record.interpret accessor))
    ++ match SendTime.get? type.stamped record.sendTime with
      | some time => [("ts_out", .time (Timestamp.civil? ⟨time⟩))]
      | none => []

end Record

end TickWire
