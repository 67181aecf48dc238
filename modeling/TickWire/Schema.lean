import TickWire.Coded

/-!
# Schemas, symbology and kinds of records

What data is asked for and how it is named: the schemas, the kinds of records they
consist of, the symbologies, and the choices of encoding, compression and upgrade.
-/

namespace TickWire

/-- A way of naming instruments. -/
inductive Symbology
  | instrumentId
  | rawSymbol
  | continuous
  | parent
  | nasdaq
  | cms
  deriving DecidableEq, Repr

instance : Spelled Symbology where
  members := [.instrumentId, .rawSymbol, .continuous, .parent, .nasdaq, .cms]
  code
    | .instrumentId => 0
    | .rawSymbol => 1
    | .continuous => 3
    | .parent => 4
    | .nasdaq => 5
    | .cms => 6
  name
    | .instrumentId => "InstrumentId"
    | .rawSymbol => "RawSymbol"
    | .continuous => "Continuous"
    | .parent => "Parent"
    | .nasdaq => "Nasdaq"
    | .cms => "Cms"
  setName := "SType"
  setPath := "dbn::enums::SType"
  spelling
    | .instrumentId => "instrument_id"
    | .rawSymbol => "raw_symbol"
    | .continuous => "continuous"
    | .parent => "parent"
    | .nasdaq => "nasdaq"
    | .cms => "cms"
  aliases := [("product_id", .instrumentId), ("native", .rawSymbol)]

/-- The kinds of records, as the second byte of a record names them. -/
inductive RecordTag
  | mbp0
  | mbp1
  | mbp10
  | ohlcvDeprecated
  | ohlcv1S
  | ohlcv1M
  | ohlcv1H
  | ohlcv1D
  | instrumentDef
  | imbalance
  | error
  | symbolMapping
  | system
  | statistics
  | mbo
  deriving DecidableEq, Repr

instance : Coded RecordTag where
  members := [.mbp0, .mbp1, .mbp10, .ohlcvDeprecated, .ohlcv1S, .ohlcv1M, .ohlcv1H,
    .ohlcv1D, .instrumentDef, .imbalance, .error, .symbolMapping, .system, .statistics,
    .mbo]
  code
    | .mbp0 => 0x00
    | .mbp1 => 0x01
    | .mbp10 => 0x0A
    | .ohlcvDeprecated => 0x11
    | .ohlcv1S => 0x20
    | .ohlcv1M => 0x21
    | .ohlcv1H => 0x22
    | .ohlcv1D => 0x23
    | .instrumentDef => 0x13
    | .imbalance => 0x14
    | .error => 0x15
    | .symbolMapping => 0x16
    | .system => 0x17
    | .statistics => 0x18
    | .mbo => 0xA0
  name
    | .mbp0 => "Mbp0"
    | .mbp1 => "Mbp1"
    | .mbp10 => "Mbp10"
    | .ohlcvDeprecated => "OhlcvDeprecated"
    | .ohlcv1S => "Ohlcv1S"
    | .ohlcv1M => "Ohlcv1M"
    | .ohlcv1H => "Ohlcv1H"
    | .ohlcv1D => "Ohlcv1D"
    | .instrumentDef => "InstrumentDef"
    | .imbalance => "Imbalance"
    | .error => "Error"
    | .symbolMapping => "SymbolMapping"
    | .system => "System"
    | .statistics => "Statistics"
    | .mbo => "Mbo"
  setName := "RType"
  setPath := "dbn::enums::rtype::RType"

namespace RecordTag

/-- The byte that names the kind. -/
def byte (tag : RecordTag) : UInt8 := UInt8.ofNat (Coded.code tag)

/-- The kind that a byte names. -/
def ofByte? (raw : UInt8) : Option RecordTag := Coded.ofCode? raw.toNat

/-- The length in seconds of the interval that a bar sums up, for kinds of bars with a
fixed one. -/
def intervalSeconds? : RecordTag → Option Nat
  | .ohlcv1S => some 1
  | .ohlcv1M => some 60
  | .ohlcv1H => some 3600
  | .ohlcv1D => some 86400
  | _ => none

end RecordTag

/-- A choice of data to subscribe to. -/
inductive Schema
  | mbo
  | mbp1
  | mbp10
  | tbbo
  | trades
  | ohlcv1S
  | ohlcv1M
  | ohlcv1H
  | ohlcv1D
  | definition
  | statistics
  | status
  | imbalance
  deriving DecidableEq, Repr

instance : Spelled Schema where
  members := [.mbo, .mbp1, .mbp10, .tbbo, .trades, .ohlcv1S, .ohlcv1M, .ohlcv1H,
    .ohlcv1D, .definition, .statistics, .status, .imbalance]
  code
    | .mbo => 0
    | .mbp1 => 1
    | .mbp10 => 2
    | .tbbo => 3
    | .trades => 4
    | .ohlcv1S => 5
    | .ohlcv1M => 6
    | .ohlcv1H => 7
    | .ohlcv1D => 8
    | .definition => 9
    | .statistics => 10
    | .status => 11
    | .imbalance => 12
  name
    | .mbo => "Mbo"
    | .mbp1 => "Mbp1"
    | .mbp10 => "Mbp10"
    | .tbbo => "Tbbo"
    | .trades => "Trades"
    | .ohlcv1S => "Ohlcv1S"
    | .ohlcv1M => "Ohlcv1M"
    | .ohlcv1H => "Ohlcv1H"
    | .ohlcv1D => "Ohlcv1D"
    | .definition => "Definition"
    | .statistics => "Statistics"
    | .status => "Status"
    | .imbalance => "Imbalance"
  setName := "Schema"
  setPath := "dbn::enums::Schema"
  spelling
    | .mbo => "mbo"
    | .mbp1 => "mbp-1"
    | .mbp10 => "mbp-10"
    | .tbbo => "tbbo"
    | .trades => "trades"
    | .ohlcv1S => "ohlcv-1s"
    | .ohlcv1M => "ohlcv-1m"
    | .ohlcv1H => "ohlcv-1h"
    | .ohlcv1D => "ohlcv-1d"
    | .definition => "definition"
    | .statistics => "statistics"
    | .status => "status"
    | .imbalance => "imbalance"
  aliases := []

namespace Schema

/-- The kind of records that a schema consists of; status has none. -/
def tag? : Schema → Option RecordTag
  | .mbo => some .mbo
  | .mbp1 | .tbbo => some .mbp1
  | .mbp10 => some .mbp10
  | .trades => some .mbp0
  | .ohlcv1S => some .ohlcv1S
  | .ohlcv1M => some .ohlcv1M
  | .ohlcv1H => some .ohlcv1H
  | .ohlcv1D => some .ohlcv1D
  | .definition => some .instrumentDef
  | .statistics => some .statistics
  | .imbalance => some .imbalance
  | .status => none

/-- The schema whose records have the kind that a byte names, for kinds that one
schema stands for. -/
def ofTag? (raw : UInt8) : Option Schema :=
  match RecordTag.ofByte? raw with
  | some .mbp0 => some .trades
  | some .mbp1 => some .mbp1
  | some .mbp10 => some .mbp10
  | some .ohlcv1S => some .ohlcv1S
  | some .ohlcv1M => some .ohlcv1M
  | some .ohlcv1H => some .ohlcv1H
  | some .ohlcv1D => some .ohlcv1D
  | some .instrumentDef => some .definition
  | some .imbalance => some .imbalance
  | some .statistics => some .statistics
  | some .mbo => some .mbo
  | _ => none

end Schema

/-- The encodings that data comes in. -/
inductive Encoding
  | dbn
  | csv
  | json
  deriving DecidableEq, Repr

instance : Spelled Encoding where
  members := [.dbn, .csv, .json]
  code
    | .dbn => 0
    | .csv => 1
    | .json => 2
  name
    | .dbn => "Dbn"
    | .csv => "Csv"
    | .json => "Json"
  setName := "Encoding"
  setPath := "dbn::enums::Encoding"
  spelling
    | .dbn => "dbn"
    | .csv => "csv"
    | .json => "json"
  aliases := [("dbz", .dbn)]

/-- The compressions that data comes in. -/
inductive Compression
  | none
  | zstd
  deriving DecidableEq, Repr

instance : Spelled Compression where
  members := [.none, .zstd]
  code
    | .none => 0
    | .zstd => 1
  name
    | .none => "None"
    | .zstd => "ZStd"
  setName := "Compression"
  setPath := "dbn::enums::Compression"
  spelling
    | .none => "none"
    | .zstd => "zstd"
  aliases := []

/-- What happens to records of an earlier version of the format. -/
inductive UpgradePolicy
  | asIs
  | upgrade
  deriving DecidableEq, Repr

instance : Spelled UpgradePolicy where
  members := [.asIs, .upgrade]
  code
    | .asIs => 0
    | .upgrade => 1
  name
    | .asIs => "AsIs"
    | .upgrade => "Upgrade"
  setName := "VersionUpgradePolicy"
  setPath := "dbn::enums::VersionUpgradePolicy"
  spelling
    | .asIs => "as-is"
    | .upgrade => "upgrade"
  aliases := [("as_is", .asIs)]

end TickWire
