import TickWire.Record.Basic

/-!
# Frames

A frame is the bytes of one record of any kind, as they are stored: at least a header,
and exactly as long as the header says.  `Frame.ofBytes` is the only way to make one
from untrusted bytes.  A frame can be read as every record type that accepts its tag
and is not longer than it.
-/

namespace TickWire

/-- The bytes of one record. -/
structure Frame where
  bytes : Bytes
  headerSize_le_length : headerSize ≤ bytes.length
  length_eq : bytes.length = Header.sizeOfLength (bytes.headD 0)

/-- The alignment in memory that records need. -/
def recordAlignment : Nat := 8

namespace Frame

/-- The frame at the start of bytes that lie at an address, if they hold one. -/
def ofBytes (address : Nat) (bytes : Bytes) : Except Error Frame :=
  if bytes.length < headerSize then
    .error (.invalidLength (.bufferBelowHeader bytes.length))
  else if address % recordAlignment ≠ 0 then .error (.badArgument .unaligned)
  else
    let size := Header.sizeOfLength (bytes.headD 0)
    if below : size < headerSize then .error (.invalidLength (.recordBelowHeader size))
    else if beyond : bytes.length < size then
      .error (.invalidLength (.recordBeyondBuffer size bytes.length))
    else .ok {
      bytes := bytes.take size
      headerSize_le_length := by
        have : size ≤ bytes.length := Nat.le_of_not_lt beyond
        simp only [List.length_take]
        omega
      length_eq := by
        have fits : size ≤ bytes.length := Nat.le_of_not_lt beyond
        have positive : 0 < size := by
          have : headerSize = 16 := rfl
          omega
        have head : (bytes.take size).headD 0 = bytes.headD 0 := by
          cases bytes with
          | nil => rfl
          | cons byte rest =>
              cases positive' : size with
              | zero => omega
              | succ smaller => simp
        rw [head, List.length_take, Nat.min_eq_left fits] }

/-- The header that bytes begin with, if it does not announce more bytes than there
are. -/
def header? (bytes : Bytes) : Option Header :=
  if bytes.length < headerSize then none
  else
    let header := Header.ofBytes bytes
    if bytes.length < header.recordSize then none else some header

/-- The record of a type that bytes begin with, whatever length its header announces. -/
def overlay? (type : RecordType) (bytes : Bytes) : Option (Record type) :=
  if type.size ≤ bytes.length ∧ type.accepts (Header.ofBytes bytes).rtype then
    some (Record.ofBytes type bytes)
  else none

def header (frame : Frame) : Header := Header.ofBytes frame.bytes

/-- The size of the record in bytes. -/
def size (frame : Frame) : Nat := frame.bytes.length

/-- Whether the tag of the frame names a type. -/
def has (frame : Frame) (type : RecordType) : Bool := type.accepts frame.header.rtype

/-- The frame read as a record of a type: the tag must name the type, and the frame must
be at least as long. -/
def get? (frame : Frame) (type : RecordType) : Option (Record type) :=
  if frame.has type ∧ type.size ≤ frame.size then some (Record.ofBytes type frame.bytes)
  else none

/-- The frame read as a record of a type that its tag names. -/
def getLong (frame : Frame) (type : RecordType) : Except Error (Record type) :=
  match frame.get? type with
  | some record => .ok record
  | none => .error (.recordTooShort frame.size type.path)

/-- The frame read as the record of the current version that its tag stands for. -/
def current (frame : Frame) : Except Error SomeRecord := do
  let tag ← frame.header.tag
  let type : RecordType := ⟨RecordKind.ofTag tag, false⟩
  let record ← frame.getLong type
  return ⟨type, record⟩

/-- What a handler for records of every type makes of the frame, which its tag decides
the type of. -/
def dispatch {α : Type} (frame : Frame) (handle : (type : RecordType) → Record type → α) :
    Except Error α := do
  let tag ← frame.header.tag
  let type : RecordType := ⟨RecordKind.dispatched tag, false⟩
  let record ← frame.getLong type
  return handle type record

/-- The time that orders records, found through the tag; a frame that its tag does not
fit counts by the time of its event. -/
def indexTime (frame : Frame) : UInt64 :=
  match frame.dispatch fun _ record => record.indexTime with
  | .ok time => time
  | .error _ => frame.header.eventTime

end Frame

end TickWire
