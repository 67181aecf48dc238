import TickWire.Market
import TickWire.Record.Accessor

/-!
# Making records

Records that a program makes itself: bars for a schema, messages of the gateway and
mappings of symbols.
-/

namespace TickWire.Record

/-- A bar of the interval of a schema; a schema that has no bars gives the tag that
names no interval. -/
def bar (schema : Schema) : Record ⟨.ohlcv, false⟩ :=
  let tag := match schema with
    | .ohlcv1S => RecordTag.ohlcv1S
    | .ohlcv1M => .ohlcv1M
    | .ohlcv1H => .ohlcv1H
    | .ohlcv1D => .ohlcv1D
    | _ => .ohlcvDeprecated
  { initial ⟨.ohlcv, false⟩ with header := Header.new ⟨.ohlcv, false⟩ tag }

/-- An error message; text that is too long is cut. -/
def errorMessage (eventTime : UInt64) (message : String) (isLast : Bool) :
    Record ⟨.error, false⟩ :=
  let fresh : Record ⟨.error, false⟩ :=
    { initial ⟨.error, false⟩ with
      header := Header.new ⟨.error, false⟩ .error 0 0 eventTime }
  (fresh.setText "err" (Terminated.truncated 302 message).toList).setInt "is_last"
    (if isLast then 1 else 0)

/-- A message of the gateway. -/
def systemMessage (eventTime : UInt64) (message : String) :
    Except Error (Record ⟨.system, false⟩) := do
  let text ← Terminated.write 303 message
  let fresh : Record ⟨.system, false⟩ :=
    { initial ⟨.system, false⟩ with
      header := Header.new ⟨.system, false⟩ .system 0 0 eventTime }
  return fresh.setText "msg" text.toList

/-- A sign of life of the gateway. -/
def heartbeat (eventTime : UInt64) : Record ⟨.system, false⟩ :=
  let fresh : Record ⟨.system, false⟩ :=
    { initial ⟨.system, false⟩ with
      header := Header.new ⟨.system, false⟩ .system 0 0 eventTime }
  fresh.setText "msg" (Terminated.truncated 303 heartbeatText).toList

/-- What a symbol mapping says. -/
structure MappingMessage where
  instrumentId : UInt32
  eventTime : UInt64
  symbologyIn : Symbology
  symbolIn : String
  symbologyOut : Symbology
  symbolOut : String
  startTime : UInt64
  endTime : UInt64

/-- A mapping of symbols. -/
def symbolMapping (message : MappingMessage) :
    Except Error (Record ⟨.symbolMapping, false⟩) := do
  let symbolIn ← Terminated.write symbolWidth message.symbolIn
  let symbolOut ← Terminated.write symbolWidth message.symbolOut
  let fresh : Record ⟨.symbolMapping, false⟩ :=
    { initial ⟨.symbolMapping, false⟩ with
      header := Header.new ⟨.symbolMapping, false⟩ .symbolMapping 0 message.instrumentId
        message.eventTime }
  return ((((((fresh.setInt "stype_in" (Coded.code message.symbologyIn)).setText
    "stype_in_symbol" symbolIn.toList).setInt "stype_out"
    (Coded.code message.symbologyOut)).setText "stype_out_symbol" symbolOut.toList).setInt
    "start_ts" message.startTime.toNat).setInt "end_ts" message.endTime.toNat)

end TickWire.Record
