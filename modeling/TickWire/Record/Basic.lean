import TickWire.Record.Kind
import TickWire.Time.Timestamp

/-!
# Records

The header that every record begins with, records of a known type, their codec and
what they hold unless it is set.
-/

namespace TickWire

/-- What every record begins with. -/
structure Header where
  /-- The length of the whole record in units of four bytes. -/
  length : UInt8
  /-- The byte that names the kind of record. -/
  rtype : UInt8
  publisherId : UInt16
  instrumentId : UInt32
  /-- When the event happened. -/
  eventTime : UInt64
  deriving DecidableEq

namespace Header

def toBytes (header : Header) : Bytes :=
  [header.length, header.rtype] ++ LittleEndian.encode 2 header.publisherId.toNat
    ++ LittleEndian.encode 4 header.instrumentId.toNat
    ++ LittleEndian.encode 8 header.eventTime.toNat

/-- The header that bytes begin with. -/
def ofBytes (bytes : Bytes) : Header where
  length := bytes.headD 0
  rtype := (bytes.drop 1).headD 0
  publisherId := UInt16.ofNat (LittleEndian.decode ((bytes.drop 2).take 2))
  instrumentId := UInt32.ofNat (LittleEndian.decode ((bytes.drop 4).take 4))
  eventTime := UInt64.ofNat (LittleEndian.decode ((bytes.drop 8).take 8))

/-- The size in bytes that a length byte announces. -/
def sizeOfLength (length : UInt8) : Nat := length.toNat * 4

/-- The length byte of a record of a size in bytes. -/
def lengthOfSize (size : Nat) : UInt8 := UInt8.ofNat (size / 4)

/-- The size in bytes that the header announces for the whole record. -/
def recordSize (header : Header) : Nat := sizeOfLength header.length

/-- The tag that the header names. -/
def tag (header : Header) : Except Error RecordTag :=
  match RecordTag.ofByte? header.rtype with
  | some tag => .ok tag
  | none => .error (Error.unknownByte RecordTag header.rtype)

/-- The header of a new record of a type. -/
def new (type : RecordType) (tag : RecordTag) (publisherId : UInt16 := 0)
    (instrumentId : UInt32 := 0) (eventTime : UInt64 := 18446744073709551615) : Header :=
  ⟨lengthOfSize type.size, tag.byte, publisherId, instrumentId, eventTime⟩

end Header

/-- The time of sending after a record, for types that have one. -/
@[reducible] def SendTime : Bool → Type
  | true => UInt64
  | false => Unit

namespace SendTime

instance instDecidableEq : (stamped : Bool) → DecidableEq (SendTime stamped)
  | true => inferInstanceAs (DecidableEq UInt64)
  | false => inferInstanceAs (DecidableEq Unit)

def toBytes : (stamped : Bool) → SendTime stamped → Bytes
  | true, time => LittleEndian.encode 8 time.toNat
  | false, () => []

/-- The time that bytes begin with. -/
def ofBytes : (stamped : Bool) → Bytes → SendTime stamped
  | true, bytes => UInt64.ofNat (LittleEndian.decode (bytes.take 8))
  | false, _ => ()

def initial : (stamped : Bool) → SendTime stamped
  | true => 18446744073709551615
  | false => ()

def get? : (stamped : Bool) → SendTime stamped → Option UInt64
  | true, time => some time
  | false, () => none

end SendTime

/-- A record of a known type. -/
structure Record (type : RecordType) where
  header : Header
  fields : type.kind.layout.Values
  sendTime : SendTime type.stamped
  deriving DecidableEq

namespace Record

variable {type : RecordType}

/-- The bytes of a record. -/
def toBytes (record : Record type) : Bytes :=
  record.header.toBytes ++ Values.toBytes type.kind.layout record.fields
    ++ SendTime.toBytes type.stamped record.sendTime

/-- The record that bytes begin with. -/
def ofBytes (type : RecordType) (bytes : Bytes) : Record type where
  header := Header.ofBytes bytes
  fields := Values.ofBytes type.kind.layout (bytes.drop headerSize)
  sendTime := SendTime.ofBytes type.stamped
    (bytes.drop (headerSize + type.kind.layout.size))

/-- A record with nothing set. -/
def initial (type : RecordType) : Record type where
  header := Header.new type type.kind.defaultTag
  fields := Values.initial type.kind.layout
  sendTime := SendTime.initial type.stamped

/-- The integer in the field of a name. -/
def int? (record : Record type) (name : String) : Option Int :=
  Values.int? name type.kind.layout record.fields

/-- The bytes of the text in the field of a name. -/
def text? (record : Record type) (name : String) : Option Bytes :=
  Values.text? name type.kind.layout record.fields

/-- Puts an integer into the field of a name. -/
def setInt (record : Record type) (name : String) (number : Int) : Record type :=
  { record with fields := Values.setInt name number type.kind.layout record.fields }

/-- Puts bytes into the text field of a name. -/
def setText (record : Record type) (name : String) (bytes : Bytes) : Record type :=
  { record with fields := Values.setText name bytes type.kind.layout record.fields }

/-- Puts price levels into the field of a name. -/
def setLevels (record : Record type) (name : String) (rows : List PriceLevel) :
    Record type :=
  { record with fields := Values.setLevels name rows type.kind.layout record.fields }

/-- The time that orders records: when the data was received, for kinds that say so, and
otherwise when the event happened. -/
def indexTime (record : Record type) : UInt64 :=
  match record.int? "ts_recv" with
  | some time => UInt64.ofNat time.toNat
  | none => record.header.eventTime

/-- The record followed by the time of sending. -/
def stamp {kind : RecordKind} (record : Record ⟨kind, false⟩) (time : UInt64) :
    Record ⟨kind, true⟩ where
  header := { record.header with length := Header.lengthOfSize (RecordType.size ⟨kind, true⟩) }
  fields := record.fields
  sendTime := time

end Record

/-- A record together with its type. -/
structure SomeRecord where
  type : RecordType
  record : Record type
  deriving DecidableEq

end TickWire
