import TickWire.Coded

/-!
# Market codes

The one-character and small-number codes that fields of records carry: sides,
actions, instrument classes, matching algorithms and kinds of statistics.
-/

namespace TickWire

/-- The side of the market that initiates an event. -/
inductive Side
  | ask
  | bid
  | none
  deriving DecidableEq, Repr

instance : Coded Side where
  members := [.ask, .bid, .none]
  code
    | .ask => 0x41
    | .bid => 0x42
    | .none => 0x4E
  name
    | .ask => "Ask"
    | .bid => "Bid"
    | .none => "None"
  setName := "Side"
  setPath := "dbn::enums::Side"

/-- What an event does to the order book. -/
inductive Action
  | modify
  | trade
  | fill
  | cancel
  | add
  | clear
  deriving DecidableEq, Repr

instance : Coded Action where
  members := [.modify, .trade, .fill, .cancel, .add, .clear]
  code
    | .modify => 0x4D
    | .trade => 0x54
    | .fill => 0x46
    | .cancel => 0x43
    | .add => 0x41
    | .clear => 0x52
  name
    | .modify => "Modify"
    | .trade => "Trade"
    | .fill => "Fill"
    | .cancel => "Cancel"
    | .add => "Add"
    | .clear => "Clear"
  setName := "Action"
  setPath := "dbn::enums::Action"

/-- The classification of an instrument. -/
inductive InstrumentClass
  | bond
  | call
  | future
  | stock
  | mixedSpread
  | put
  | futureSpread
  | optionSpread
  | fxSpot
  deriving DecidableEq, Repr

instance : Coded InstrumentClass where
  members := [.bond, .call, .future, .stock, .mixedSpread, .put, .futureSpread,
    .optionSpread, .fxSpot]
  code
    | .bond => 0x42
    | .call => 0x43
    | .future => 0x46
    | .stock => 0x4B
    | .mixedSpread => 0x4D
    | .put => 0x50
    | .futureSpread => 0x53
    | .optionSpread => 0x54
    | .fxSpot => 0x58
  name
    | .bond => "Bond"
    | .call => "Call"
    | .future => "Future"
    | .stock => "Stock"
    | .mixedSpread => "MixedSpread"
    | .put => "Put"
    | .futureSpread => "FutureSpread"
    | .optionSpread => "OptionSpread"
    | .fxSpot => "FxSpot"
  setName := "InstrumentClass"
  setPath := "dbn::enums::InstrumentClass"

namespace InstrumentClass

/-- Whether the class is a type of option.  A mixed spread may hold options and does
not count. -/
def isOption : InstrumentClass → Bool
  | .call | .put | .optionSpread => true
  | _ => false

/-- Whether the class is a type of future.  A mixed spread may hold futures and does
not count. -/
def isFuture : InstrumentClass → Bool
  | .future | .futureSpread => true
  | _ => false

/-- Whether instruments of the class are made of several legs. -/
def isSpread : InstrumentClass → Bool
  | .futureSpread | .optionSpread | .mixedSpread => true
  | _ => false

end InstrumentClass

/-- How a venue matches orders. -/
inductive MatchAlgorithm
  | fifo
  | configurable
  | proRata
  | fifoLmm
  | thresholdProRata
  | fifoTopLmm
  | thresholdProRataLmm
  | eurodollarFutures
  deriving DecidableEq, Repr

instance : Coded MatchAlgorithm where
  members := [.fifo, .configurable, .proRata, .fifoLmm, .thresholdProRata, .fifoTopLmm,
    .thresholdProRataLmm, .eurodollarFutures]
  code
    | .fifo => 0x46
    | .configurable => 0x4B
    | .proRata => 0x43
    | .fifoLmm => 0x54
    | .thresholdProRata => 0x4F
    | .fifoTopLmm => 0x53
    | .thresholdProRataLmm => 0x51
    | .eurodollarFutures => 0x59
  name
    | .fifo => "Fifo"
    | .configurable => "Configurable"
    | .proRata => "ProRata"
    | .fifoLmm => "FifoLmm"
    | .thresholdProRata => "ThresholdProRata"
    | .fifoTopLmm => "FifoTopLmm"
    | .thresholdProRataLmm => "ThresholdProRataLmm"
    | .eurodollarFutures => "EurodollarFutures"
  setName := "MatchAlgorithm"
  setPath := "dbn::enums::MatchAlgorithm"

/-- Whether a definition is new, changed or withdrawn. -/
inductive DefinitionUpdate
  | add
  | modify
  | delete
  deriving DecidableEq, Repr

instance : Coded DefinitionUpdate where
  members := [.add, .modify, .delete]
  code
    | .add => 0x41
    | .modify => 0x4D
    | .delete => 0x44
  name
    | .add => "Add"
    | .modify => "Modify"
    | .delete => "Delete"
  setName := "SecurityUpdateAction"
  setPath := "dbn::enums::SecurityUpdateAction"

/-- Whether users of the venue defined an instrument. -/
inductive UserDefined
  | no
  | yes
  deriving DecidableEq, Repr

instance : Coded UserDefined where
  members := [.no, .yes]
  code
    | .no => 0x4E
    | .yes => 0x59
  name
    | .no => "No"
    | .yes => "Yes"
  setName := "UserDefinedInstrument"
  setPath := "dbn::enums::UserDefinedInstrument"

/-- The statistic that a statistics record carries. -/
inductive StatType
  | openingPrice
  | indicativeOpeningPrice
  | settlementPrice
  | tradingSessionLowPrice
  | tradingSessionHighPrice
  | clearedVolume
  | lowestOffer
  | highestBid
  | openInterest
  | fixingPrice
  | closePrice
  | netChange
  deriving DecidableEq, Repr

instance : Coded StatType where
  members := [.openingPrice, .indicativeOpeningPrice, .settlementPrice,
    .tradingSessionLowPrice, .tradingSessionHighPrice, .clearedVolume, .lowestOffer,
    .highestBid, .openInterest, .fixingPrice, .closePrice, .netChange]
  code
    | .openingPrice => 1
    | .indicativeOpeningPrice => 2
    | .settlementPrice => 3
    | .tradingSessionLowPrice => 4
    | .tradingSessionHighPrice => 5
    | .clearedVolume => 6
    | .lowestOffer => 7
    | .highestBid => 8
    | .openInterest => 9
    | .fixingPrice => 10
    | .closePrice => 11
    | .netChange => 12
  name
    | .openingPrice => "OpeningPrice"
    | .indicativeOpeningPrice => "IndicativeOpeningPrice"
    | .settlementPrice => "SettlementPrice"
    | .tradingSessionLowPrice => "TradingSessionLowPrice"
    | .tradingSessionHighPrice => "TradingSessionHighPrice"
    | .clearedVolume => "ClearedVolume"
    | .lowestOffer => "LowestOffer"
    | .highestBid => "HighestBid"
    | .openInterest => "OpenInterest"
    | .fixingPrice => "FixingPrice"
    | .closePrice => "ClosePrice"
    | .netChange => "NetChange"
  setName := "StatType"
  setPath := "dbn::enums::StatType"

/-- Whether a statistic is new or withdrawn. -/
inductive StatUpdate
  | new
  | delete
  deriving DecidableEq, Repr

instance : Coded StatUpdate where
  members := [.new, .delete]
  code
    | .new => 1
    | .delete => 2
  name
    | .new => "New"
    | .delete => "Delete"
  setName := "StatUpdateAction"
  setPath := "dbn::enums::StatUpdateAction"

/-- The bits of the flags of an event, with their names, greatest bit first. -/
def eventFlags : List (String × UInt8) :=
  [("LAST", 0x80), ("TOB", 0x40), ("SNAPSHOT", 0x20), ("MBP", 0x10), ("BAD_TS_RECV", 0x08)]

/-- Whether every bit of a flag is set. -/
def hasFlag (flags flag : UInt8) : Bool := flags &&& flag == flag

/-- The names of the flags that are set. -/
def eventFlagNames (flags : UInt8) : List String :=
  (eventFlags.filter fun entry => hasFlag flags entry.2).map (·.1)

end TickWire
