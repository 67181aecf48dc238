import TickWire.Record.Frame

/-!
# Records of version 1

Version 1 of the format laid out four kinds of records differently.  Upgrading such a
record takes over the fields that are listed for its kind, keeps what identifies the
event in the header, and leaves all other fields as they are initially.  `decodeFrame`
is where a frame meets a version and a policy.
-/

namespace TickWire

namespace RecordKind

/-- The kind of version 1 that a tag stands for where it differs from the current one,
and the current kind. -/
def legacyOfTag? : RecordTag → Option (RecordKind × RecordKind)
  | .instrumentDef => some (.instrumentDefV1, .instrumentDef)
  | .error => some (.errorV1, .error)
  | .symbolMapping => some (.symbolMappingV1, .symbolMapping)
  | .system => some (.systemV1, .system)
  | _ => none

/-- The names of the fields of a kind that are taken over from the record of version 1
that it replaces. -/
def takenOver : RecordKind → List String
  | .instrumentDef =>
      ["ts_recv", "min_price_increment", "display_factor", "expiration", "activation",
        "high_limit_price", "low_limit_price", "max_price_variation",
        "trading_reference_price", "unit_of_measure_qty", "min_price_increment_amount",
        "price_ratio", "strike_price", "inst_attrib_value", "underlying_id",
        "raw_instrument_id", "market_depth_implied", "market_depth", "market_segment_id",
        "max_trade_vol", "min_lot_size", "min_lot_size_block", "min_lot_size_round_lot",
        "min_trade_vol", "contract_multiplier", "decay_quantity", "original_contract_size",
        "trading_reference_date", "appl_id", "maturity_year", "decay_start_date",
        "channel_id", "currency", "settl_currency", "secsubtype", "group", "exchange",
        "asset", "cfi", "security_type", "unit_of_measure", "underlying",
        "strike_price_currency", "instrument_class", "match_algorithm",
        "md_security_trading_status", "main_fraction", "price_display_format",
        "settl_price_type", "sub_fraction", "underlying_product", "security_update_action",
        "maturity_month", "maturity_day", "maturity_week", "user_defined_instrument",
        "contract_multiplier_unit", "flow_schedule_type", "tick_rule", "raw_symbol"]
  | .error => ["err"]
  | .symbolMapping => ["start_ts", "end_ts", "stype_in_symbol", "stype_out_symbol"]
  | .system => ["msg"]
  | _ => []

end RecordKind

namespace Record

/-- A record as one of another kind, which takes over the fields that are listed for it
by their names. -/
def convert {kind : RecordKind} (old : Record ⟨kind, false⟩) (target : RecordKind) :
    Record ⟨target, false⟩ where
  header := Header.new ⟨target, false⟩ target.defaultTag old.header.publisherId
    old.header.instrumentId old.header.eventTime
  fields := Values.carried
    (fun name =>
      if name ∈ target.takenOver then Values.get? name kind.layout old.fields else none)
    target.layout
  sendTime := ()

/-- A record followed by the time of sending, as one of another kind. -/
def convertStamped {kind : RecordKind} (old : Record ⟨kind, true⟩) (target : RecordKind) :
    Record ⟨target, true⟩ :=
  let inner : Record ⟨kind, false⟩ := ⟨old.header, old.fields, ()⟩
  (inner.convert target).stamp old.sendTime

end Record

/-- A decoded frame, and whether it is the input itself or an upgraded copy. -/
inductive DecodedFrame
  | inPlace (frame : Frame)
  | upgraded (frame : Frame)

namespace DecodedFrame

def frame : DecodedFrame → Frame
  | inPlace frame => frame
  | upgraded frame => frame

def isInPlace : DecodedFrame → Bool
  | inPlace _ => true
  | upgraded _ => false

end DecodedFrame

/-- The place where upgraded records are put, each over the one before. -/
structure UpgradeBuffer where
  bytes : Bytes := List.replicate recordMaximumSize 0

namespace UpgradeBuffer

/-- Puts the bytes of a record at the start. -/
def store (buffer : UpgradeBuffer) (bytes : Bytes) : UpgradeBuffer :=
  ⟨bytes ++ buffer.bytes.drop bytes.length⟩

end UpgradeBuffer

/-- The upgraded bytes of a frame of a kind of version 1. -/
def upgradedBytes (legacy target : RecordKind) (stamped : Bool) (frame : Frame) :
    Except Error Bytes :=
  if stamped then
    (frame.getLong ⟨legacy, true⟩).map fun old => (old.convertStamped target).toBytes
  else (frame.getLong ⟨legacy, false⟩).map fun old => (old.convert target).toBytes

/-- Decodes the frame at the start of bytes that lie at an address, under a version and
a policy.  `stamped` says that records of the stream are followed by the time of
sending.  Only records of version 1 whose layout has changed are upgraded. -/
def decodeFrame (version : UInt8) (policy : UpgradePolicy) (stamped : Bool)
    (buffer : UpgradeBuffer) (address : Nat) (input : Bytes) :
    Except Error (DecodedFrame × UpgradeBuffer) := do
  if formatVersion < version then throw (.unsupportedVersion version)
  let frame ← Frame.ofBytes address input
  if version ≠ 1 ∨ policy ≠ .upgrade then return (.inPlace frame, buffer)
  match (RecordTag.ofByte? frame.header.rtype).bind RecordKind.legacyOfTag? with
  | none => return (.inPlace frame, buffer)
  | some (legacy, target) =>
    let buffer := buffer.store (← upgradedBytes legacy target stamped frame)
    return (.upgraded (← Frame.ofBytes 0 buffer.bytes), buffer)

end TickWire
