import TickWire.Error
import TickWire.Record.Layout
import TickWire.Schema

/-!
# Kinds of records

The fifteen kinds of records: the eleven of the current version of the format and the
four that version 1 laid out differently.  Each has a layout, the bytes that may name
it in a header, and names for diagnostic output.  A record type is a kind that may be
followed by the time at which the gateway sent it.
-/

namespace TickWire

/-- A price that is not known. -/
def undefinedPrice : Int := 9223372036854775807

/-- A time that is not known. -/
def undefinedTime : Int := 18446744073709551615

/-- A size that is not known. -/
def undefinedSize : Int := 4294967295

/-- The size of a symbol field. -/
def symbolWidth : Nat := 71

/-- The size of a symbol field in version 1 of the format. -/
def symbolWidthV1 : Nat := 22

/-- The size of symbol fields in a version of the format. -/
def symbolWidthOf (version : UInt8) : Nat :=
  if version < 2 then symbolWidthV1 else symbolWidth

namespace Layout

/-- The fields of an event of one order. -/
def mbo : Layout :=
  [.u64 "order_id", .i64 "price" undefinedPrice, .u32 "size" undefinedSize, .u8 "flags",
    .u8 "channel_id" 255, .i8 "action" 0x54, .i8 "side" 0x4E, .u64 "ts_recv" undefinedTime,
    .i32 "ts_in_delta", .u32 "sequence"]

/-- The fields of a trade. -/
def trade : Layout :=
  [.i64 "price" undefinedPrice, .u32 "size" undefinedSize, .i8 "action" 0x54,
    .i8 "side" 0x4E, .u8 "flags", .u8 "depth", .u64 "ts_recv" undefinedTime,
    .i32 "ts_in_delta", .u32 "sequence"]

/-- The fields of an event with the top of the order book. -/
def mbp1 : Layout :=
  [.i64 "price" undefinedPrice, .u32 "size" undefinedSize, .i8 "action" 0x54,
    .i8 "side" 0x4E, .u8 "flags", .u8 "depth", .u64 "ts_recv" undefinedTime,
    .i32 "ts_in_delta", .u32 "sequence", .levels "levels" 1]

/-- The fields of an event with the ten best levels of the order book. -/
def mbp10 : Layout :=
  [.i64 "price" undefinedPrice, .u32 "size" undefinedSize, .i8 "action" 0x54,
    .i8 "side" 0x4E, .u8 "flags", .u8 "depth", .u64 "ts_recv" undefinedTime,
    .i32 "ts_in_delta", .u32 "sequence", .levels "levels" 10]

/-- The fields of the prices and the volume of one interval. -/
def ohlcv : Layout :=
  [.i64 "open" undefinedPrice, .i64 "high" undefinedPrice, .i64 "low" undefinedPrice,
    .i64 "close" undefinedPrice, .u64 "volume"]

/-- The fields of the definition of an instrument. -/
def instrumentDef : Layout :=
  [.u64 "ts_recv" undefinedTime, .i64 "min_price_increment" undefinedPrice,
    .i64 "display_factor" undefinedPrice, .u64 "expiration" undefinedTime,
    .u64 "activation" undefinedTime, .i64 "high_limit_price" undefinedPrice,
    .i64 "low_limit_price" undefinedPrice, .i64 "max_price_variation" undefinedPrice,
    .i64 "trading_reference_price" undefinedPrice,
    .i64 "unit_of_measure_qty" undefinedPrice,
    .i64 "min_price_increment_amount" undefinedPrice, .i64 "price_ratio" undefinedPrice,
    .i64 "strike_price" undefinedPrice, .i32 "inst_attrib_value" 2147483647,
    .u32 "underlying_id", .u32 "raw_instrument_id", .i32 "market_depth_implied" 2147483647,
    .i32 "market_depth" 2147483647, .u32 "market_segment_id" 4294967295,
    .u32 "max_trade_vol" 4294967295, .i32 "min_lot_size" 2147483647,
    .i32 "min_lot_size_block" 2147483647, .i32 "min_lot_size_round_lot" 2147483647,
    .u32 "min_trade_vol" 4294967295, .i32 "contract_multiplier" 2147483647,
    .i32 "decay_quantity" 2147483647, .i32 "original_contract_size" 2147483647,
    .u16 "trading_reference_date" 65535, .i16 "appl_id" 32767, .u16 "maturity_year" 65535,
    .u16 "decay_start_date" 65535, .u16 "channel_id" 65535, .text "currency" 4,
    .text "settl_currency" 4, .text "secsubtype" 6, .text "raw_symbol" symbolWidth,
    .text "group" 21, .text "exchange" 5, .text "asset" 7, .text "cfi" 7,
    .text "security_type" 7, .text "unit_of_measure" 31, .text "underlying" 21,
    .text "strike_price_currency" 4, .i8 "instrument_class", .i8 "match_algorithm",
    .u8 "md_security_trading_status" 255, .u8 "main_fraction" 255,
    .u8 "price_display_format" 255, .u8 "settl_price_type" 255, .u8 "sub_fraction" 255,
    .u8 "underlying_product" 255, .i8 "security_update_action" 0x41,
    .u8 "maturity_month" 255, .u8 "maturity_day" 255, .u8 "maturity_week" 255,
    .i8 "user_defined_instrument" 0x4E, .i8 "contract_multiplier_unit" 127,
    .i8 "flow_schedule_type" 127, .u8 "tick_rule" 255, .filler "_reserved" 10]

/-- The fields of the imbalance of an auction. -/
def imbalance : Layout :=
  [.u64 "ts_recv" undefinedTime, .i64 "ref_price" undefinedPrice,
    .u64 "auction_time" undefinedTime, .i64 "cont_book_clr_price" undefinedPrice,
    .i64 "auct_interest_clr_price" undefinedPrice, .i64 "ssr_filling_price" undefinedPrice,
    .i64 "ind_match_price" undefinedPrice, .i64 "upper_collar" undefinedPrice,
    .i64 "lower_collar" undefinedPrice, .u32 "paired_qty" undefinedSize,
    .u32 "total_imbalance_qty" undefinedSize, .u32 "market_imbalance_qty" undefinedSize,
    .u32 "unpaired_qty" undefinedSize, .i8 "auction_type" 0x7E, .i8 "side" 0x4E,
    .u8 "auction_status", .u8 "freeze_status", .u8 "num_extensions",
    .i8 "unpaired_side" 0x4E, .i8 "significant_imbalance" 0x7E, .filler "_reserved" 1]

/-- The fields of a statistic of an instrument. -/
def stat : Layout :=
  [.u64 "ts_recv" undefinedTime, .u64 "ts_ref" undefinedTime, .i64 "price" undefinedPrice,
    .i32 "quantity" 2147483647, .u32 "sequence", .i32 "ts_in_delta", .u16 "stat_type",
    .u16 "channel_id" 65535, .u8 "update_action" 1, .u8 "stat_flags", .filler "_reserved" 6]

/-- The fields of an error message of the gateway. -/
def error : Layout :=
  [.text "err" 302, .u8 "code" 255, .u8 "is_last" 255]

/-- The fields of the mapping of a symbol of one symbology to a symbol of another. -/
def symbolMapping : Layout :=
  [.u8 "stype_in" 255, .text "stype_in_symbol" symbolWidth, .u8 "stype_out" 255,
    .text "stype_out_symbol" symbolWidth, .u64 "start_ts" undefinedTime,
    .u64 "end_ts" undefinedTime]

/-- The fields of a message of the gateway that is no error. -/
def system : Layout :=
  [.text "msg" 303, .u8 "code" 255]

/-- The fields of the definition of an instrument in version 1 of the format. -/
def instrumentDefV1 : Layout :=
  [.u64 "ts_recv" undefinedTime, .i64 "min_price_increment" undefinedPrice,
    .i64 "display_factor" undefinedPrice, .u64 "expiration" undefinedTime,
    .u64 "activation" undefinedTime, .i64 "high_limit_price" undefinedPrice,
    .i64 "low_limit_price" undefinedPrice, .i64 "max_price_variation" undefinedPrice,
    .i64 "trading_reference_price" undefinedPrice,
    .i64 "unit_of_measure_qty" undefinedPrice,
    .i64 "min_price_increment_amount" undefinedPrice, .i64 "price_ratio" undefinedPrice,
    .i32 "inst_attrib_value" 2147483647, .u32 "underlying_id", .u32 "raw_instrument_id",
    .i32 "market_depth_implied" 2147483647, .i32 "market_depth" 2147483647,
    .u32 "market_segment_id" 4294967295, .u32 "max_trade_vol" 4294967295,
    .i32 "min_lot_size" 2147483647, .i32 "min_lot_size_block" 2147483647,
    .i32 "min_lot_size_round_lot" 2147483647, .u32 "min_trade_vol" 4294967295,
    .filler "_reserved2" 4, .i32 "contract_multiplier" 2147483647,
    .i32 "decay_quantity" 2147483647, .i32 "original_contract_size" 2147483647,
    .filler "_reserved3" 4, .u16 "trading_reference_date" 65535, .i16 "appl_id" 32767,
    .u16 "maturity_year" 65535, .u16 "decay_start_date" 65535, .u16 "channel_id" 65535,
    .text "currency" 4, .text "settl_currency" 4, .text "secsubtype" 6,
    .text "raw_symbol" symbolWidthV1, .text "group" 21, .text "exchange" 5, .text "asset" 7,
    .text "cfi" 7, .text "security_type" 7, .text "unit_of_measure" 31,
    .text "underlying" 21, .text "strike_price_currency" 4, .i8 "instrument_class",
    .filler "_reserved4" 2, .i64 "strike_price" undefinedPrice, .filler "_reserved5" 6,
    .i8 "match_algorithm", .u8 "md_security_trading_status" 255, .u8 "main_fraction" 255,
    .u8 "price_display_format" 255, .u8 "settl_price_type" 255, .u8 "sub_fraction" 255,
    .u8 "underlying_product" 255, .i8 "security_update_action" 0x41,
    .u8 "maturity_month" 255, .u8 "maturity_day" 255, .u8 "maturity_week" 255,
    .i8 "user_defined_instrument" 0x4E, .i8 "contract_multiplier_unit" 127,
    .i8 "flow_schedule_type" 127, .u8 "tick_rule" 255, .filler "_dummy" 3]

/-- The fields of an error message of the gateway in version 1 of the format. -/
def errorV1 : Layout :=
  [.text "err" 64]

/-- The fields of the mapping of a symbol in version 1 of the format. -/
def symbolMappingV1 : Layout :=
  [.text "stype_in_symbol" symbolWidthV1, .text "stype_out_symbol" symbolWidthV1,
    .filler "_dummy" 4, .u64 "start_ts" undefinedTime, .u64 "end_ts" undefinedTime]

/-- The fields of a message of the gateway that is no error in version 1 of the format. -/
def systemV1 : Layout :=
  [.text "msg" 64]

end Layout

/-- The kinds of records. -/
inductive RecordKind
  /-- An event of one order. -/
  | mbo
  /-- A trade. -/
  | trade
  /-- An event with the top of the order book. -/
  | mbp1
  /-- An event with the ten best levels of the order book. -/
  | mbp10
  /-- The prices and the volume of one interval. -/
  | ohlcv
  /-- The definition of an instrument. -/
  | instrumentDef
  /-- The imbalance of an auction. -/
  | imbalance
  /-- A statistic of an instrument. -/
  | stat
  /-- An error message of the gateway. -/
  | error
  /-- The mapping of a symbol of one symbology to a symbol of another. -/
  | symbolMapping
  /-- A message of the gateway that is no error. -/
  | system
  /-- The definition of an instrument in version 1 of the format. -/
  | instrumentDefV1
  /-- An error message of the gateway in version 1 of the format. -/
  | errorV1
  /-- The mapping of a symbol in version 1 of the format. -/
  | symbolMappingV1
  /-- A message of the gateway that is no error in version 1 of the format. -/
  | systemV1
  deriving DecidableEq, Repr

namespace RecordKind

/-- Every kind, those of the current version first. -/
def all : List RecordKind :=
  [.mbo, .trade, .mbp1, .mbp10, .ohlcv, .instrumentDef, .imbalance, .stat, .error,
    .symbolMapping, .system, .instrumentDefV1, .errorV1, .symbolMappingV1, .systemV1]

/-- The fields after the header. -/
def layout : RecordKind → Layout
  | .mbo => Layout.mbo
  | .trade => Layout.trade
  | .mbp1 => Layout.mbp1
  | .mbp10 => Layout.mbp10
  | .ohlcv => Layout.ohlcv
  | .instrumentDef => Layout.instrumentDef
  | .imbalance => Layout.imbalance
  | .stat => Layout.stat
  | .error => Layout.error
  | .symbolMapping => Layout.symbolMapping
  | .system => Layout.system
  | .instrumentDefV1 => Layout.instrumentDefV1
  | .errorV1 => Layout.errorV1
  | .symbolMappingV1 => Layout.symbolMappingV1
  | .systemV1 => Layout.systemV1

/-- The name in diagnostic output. -/
def name : RecordKind → String
  | .mbo => "MboMsg"
  | .trade => "TradeMsg"
  | .mbp1 => "Mbp1Msg"
  | .mbp10 => "Mbp10Msg"
  | .ohlcv => "OhlcvMsg"
  | .instrumentDef => "InstrumentDefMsg"
  | .imbalance => "ImbalanceMsg"
  | .stat => "StatMsg"
  | .error => "ErrorMsg"
  | .symbolMapping => "SymbolMappingMsg"
  | .system => "SystemMsg"
  | .instrumentDefV1 => "InstrumentDefMsgV1"
  | .errorV1 => "ErrorMsgV1"
  | .symbolMappingV1 => "SymbolMappingMsgV1"
  | .systemV1 => "SystemMsgV1"

/-- Whether the kind is one of version 1 of the format. -/
def isLegacy : RecordKind → Bool
  | .instrumentDefV1 | .errorV1 | .symbolMappingV1 | .systemV1 => true
  | _ => false

/-- The qualified name in diagnostic output. -/
def path (kind : RecordKind) : String :=
  if kind.isLegacy then s!"dbn::compat::{kind.name}" else s!"dbn::record::{kind.name}"

/-- The tags that name the kind in a header.  Bars have one for each interval. -/
def tags : RecordKind → List RecordTag
  | .mbo => [.mbo]
  | .trade => [.mbp0]
  | .mbp1 => [.mbp1]
  | .mbp10 => [.mbp10]
  | .ohlcv => [.ohlcvDeprecated, .ohlcv1S, .ohlcv1M, .ohlcv1H, .ohlcv1D]
  | .instrumentDef | .instrumentDefV1 => [.instrumentDef]
  | .imbalance => [.imbalance]
  | .stat => [.statistics]
  | .error | .errorV1 => [.error]
  | .symbolMapping | .symbolMappingV1 => [.symbolMapping]
  | .system | .systemV1 => [.system]

/-- Whether a header byte names the kind. -/
def accepts (kind : RecordKind) (rtype : UInt8) : Bool :=
  kind.tags.any fun tag => tag.byte == rtype

/-- The tag that a new record of the kind gets. -/
def defaultTag (kind : RecordKind) : RecordTag := kind.tags.headD .mbo

/-- The kind that a frame with a tag is read as in the current version. -/
def ofTag : RecordTag → RecordKind
  | .mbp0 => .trade
  | .mbp1 => .mbp1
  | .mbp10 => .mbp10
  | .ohlcvDeprecated | .ohlcv1S | .ohlcv1M | .ohlcv1H | .ohlcv1D => .ohlcv
  | .instrumentDef => .instrumentDef
  | .imbalance => .imbalance
  | .error => .error
  | .symbolMapping => .symbolMapping
  | .system => .system
  | .statistics => .stat
  | .mbo => .mbo

/-- The kind that a handler for records of every kind gets a frame with a tag as. -/
def dispatched : RecordTag → RecordKind
  | .mbp0 => .trade
  | .mbp1 => .mbp1
  | .mbp10 => .mbp10
  | .ohlcvDeprecated | .ohlcv1S | .ohlcv1M | .ohlcv1H | .ohlcv1D => .ohlcv
  | .imbalance => .imbalance
  | .instrumentDef => .instrumentDef
  | .error => .error
  | .symbolMapping => .symbolMapping
  | .system => .system
  | .statistics => .stat
  | .mbo => .mbo

/-- The name of the kind where a record is shown with its tag. -/
def variantName : RecordKind → String
  | .mbo => "Mbo"
  | .trade => "Trade"
  | .mbp1 => "Mbp1"
  | .mbp10 => "Mbp10"
  | .ohlcv => "Ohlcv"
  | .instrumentDef | .instrumentDefV1 => "InstrumentDef"
  | .imbalance => "Imbalance"
  | .stat => "Stat"
  | .error | .errorV1 => "Error"
  | .symbolMapping | .symbolMappingV1 => "SymbolMapping"
  | .system | .systemV1 => "System"

end RecordKind

/-- The size of a record header in bytes. -/
def headerSize : Nat := 16

/-- A kind of record, with or without the time of sending after it. -/
structure RecordType where
  kind : RecordKind
  stamped : Bool := false
  deriving DecidableEq, Repr

namespace RecordType

/-- The size of a record of the type in bytes. -/
def size (type : RecordType) : Nat :=
  headerSize + type.kind.layout.size + if type.stamped then 8 else 0

/-- Whether a header byte names the type. -/
def accepts (type : RecordType) (rtype : UInt8) : Bool := type.kind.accepts rtype

/-- The name in requests and diagnostic output. -/
def name (type : RecordType) : String :=
  if type.stamped then s!"WithTsOut<{type.kind.name}>" else type.kind.name

/-- The qualified name in diagnostic output. -/
def path (type : RecordType) : String :=
  if type.stamped then s!"dbn::record::WithTsOut<{type.kind.path}>" else type.kind.path

/-- Every type, each kind without and then with the time of sending. -/
def all : List RecordType :=
  RecordKind.all.flatMap fun kind => [⟨kind, false⟩, ⟨kind, true⟩]

/-- The type of a name. -/
def ofName? (text : String) : Option RecordType := all.find? fun type => type.name == text

end RecordType

/-- The size in bytes of the records that a tag stands for in the current version,
without a time of sending. -/
def RecordTag.recordSize : RecordTag → Nat
  | .mbp0 => RecordType.size ⟨.trade, false⟩
  | .mbp1 => RecordType.size ⟨.mbp1, false⟩
  | .mbp10 => RecordType.size ⟨.mbp10, false⟩
  | .ohlcvDeprecated | .ohlcv1S | .ohlcv1M | .ohlcv1H | .ohlcv1D =>
      RecordType.size ⟨.ohlcv, false⟩
  | .instrumentDef => RecordType.size ⟨.instrumentDef, false⟩
  | .imbalance => RecordType.size ⟨.imbalance, false⟩
  | .error => RecordType.size ⟨.error, false⟩
  | .symbolMapping => RecordType.size ⟨.symbolMapping, false⟩
  | .system => RecordType.size ⟨.system, false⟩
  | .statistics => RecordType.size ⟨.stat, false⟩
  | .mbo => RecordType.size ⟨.mbo, false⟩

namespace Schema

/-- The kind of records of a schema and its tag, or why there is none. -/
def tag (schema : Schema) : Except Error RecordTag :=
  match schema.tag? with
  | some tag => .ok tag
  | none => .error (.badArgument (.schemaWithoutRecords (Coded.code schema)))

/-- The size of the records of a schema in bytes. -/
def recordSize (schema : Schema) : Except Error Nat :=
  schema.tag.map RecordTag.recordSize

/-- The size of the records of a schema given by its code. -/
def recordSizeOfCode (raw : Nat) : Except Error Nat :=
  match (Coded.ofCode? raw : Option Schema) with
  | some schema => schema.recordSize
  | none => .error (.badArgument (.schemaWithoutRecords raw))

end Schema

/-- The size of the longest record of any type. -/
def recordMaximumSize : Nat := 408

/-- The size of the longest frame that a length byte can announce. -/
def frameMaximumSize : Nat := 1020

end TickWire
