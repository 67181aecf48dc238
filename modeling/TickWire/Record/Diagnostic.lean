import TickWire.Record.Basic
import TickWire.Text.Terminated

/-!
# Diagnostic text of records

Every field of a record by name, fillers included, in the order in which the fields
are stored.
-/

namespace TickWire.Diagnostic

/-- Named parts between braces. -/
def braced (name : String) (parts : List (String × String)) : String :=
  name ++ " \x7b " ++ ", ".intercalate (parts.map fun part => part.1 ++ ": " ++ part.2)
    ++ " \x7d"

/-- An optional part. -/
def optional : Option String → String
  | some text => "Some(" ++ text ++ ")"
  | none => "None"

/-- Yes or no. -/
def flag (value : Bool) : String := if value then "true" else "false"

def header (header : Header) : String :=
  braced "RecordHeader"
    [("length", toString header.length.toNat), ("rtype", toString header.rtype.toNat),
      ("publisher_id", toString header.publisherId.toNat),
      ("instrument_id", toString header.instrumentId.toNat),
      ("ts_event", toString header.eventTime.toNat)]

def level (level : PriceLevel) : String :=
  braced "BidAskPair"
    [("bid_px", toString level.bidPrice.toInt), ("ask_px", toString level.askPrice.toInt),
      ("bid_sz", toString level.bidSize.toNat), ("ask_sz", toString level.askSize.toNat),
      ("bid_ct", toString level.bidCount.toNat), ("ask_ct", toString level.askCount.toNat)]

def value : FieldValue → String
  | ⟨.word _ true, number⟩ => toString number.toInt
  | ⟨.word _ false, number⟩ => toString number.toNat
  | ⟨.text _, row⟩ => Terminated.signedNumbers row.toList
  | ⟨.filler _, row⟩ => bracketed (row.toList.map fun byte => toString byte.toNat)
  | ⟨.levels _, row⟩ => bracketed (row.toList.map level)

/-- A record without the time of sending. -/
def body {type : RecordType} (record : Record type) : String :=
  braced type.kind.name <|
    ("hd", header record.header)
      :: (Values.entries type.kind.layout record.fields).map fun entry =>
        (entry.1.name, value entry.2)

/-- A record, around it the time of sending if it has one. -/
def record {type : RecordType} (record : Record type) : String :=
  match SendTime.get? type.stamped record.sendTime with
  | some time => braced "WithTsOut" [("rec", body record), ("ts_out", toString time.toNat)]
  | none => body record

/-- A record with the name of its variant. -/
def variant {type : RecordType} (shown : Record type) : String :=
  type.kind.variantName ++ "(" ++ record shown ++ ")"

end TickWire.Diagnostic
