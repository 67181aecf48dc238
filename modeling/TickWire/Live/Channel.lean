import TickWire.Buffer
import TickWire.Live.Error
import TickWire.Live.Link

/-!
# Channels

A link together with the buffer of what arrived on it.  One read puts bytes behind those
that are unread, which are moved to the front before.  Lines are taken off the buffer
when they are whole; what arrived after a line stays.
-/

namespace TickWire

/-- The capacity of a buffer unless it is set. -/
def defaultBufferSize : Nat := 64 * 1024

/-- The greatest number of bytes of a line of the handshake, its end included. -/
def handshakeLineLimit : Nat := 24 * 1024

/-- A link and what arrived on it. -/
structure Channel where
  link : Link
  buffer : ByteBuffer

/-- Steps that use a channel; what they did stays done when they fail. -/
abbrev ChannelStep := ExceptT LiveError (StateM Channel)

namespace Channel

/-- Moves the unread bytes to the front and reads once into the room behind them. -/
def fill (timeout : Option Nat) : ChannelStep ReadResult := fun channel =>
  let buffer := channel.buffer.compact
  if buffer.spareLength = 0 then
    (.error (.configuration (.bufferFull buffer.capacity)), { channel with buffer })
  else match channel.link.read buffer.spareLength timeout with
  | (.error failure, link) => (.error (.link failure .reading), ⟨link, buffer⟩)
  | (.ok result, link) =>
      (.ok result, ⟨link, ((buffer.fill result.bytes).commit result.bytes.length).2⟩)

/-- Moves the unread bytes to the front unless they begin at the start of a word. -/
def realign (buffer : ByteBuffer) : ByteBuffer :=
  if buffer.consumed % wordSize = 0 then buffer else buffer.compact

/-- The bytes before the first end of a line that lies behind the first `searched` bytes. -/
def lineBehind? (searched : Nat) (bytes : Bytes) : Option Bytes :=
  ((bytes.drop searched).idxOf? 0x0A).map fun place => bytes.take (searched + place)

/-- Refuses what is unread. -/
def refuse {α : Type} (fault : ProtocolFault) : ChannelStep α := do
  let channel ← get
  throw (.protocol fault (lossyText channel.buffer.unread))

/-- Takes a whole line, with its end, off the buffer. -/
def takeLine (line : HandshakeLine) (bytes : Bytes) : ChannelStep String :=
  match Utf8.decode bytes with
  | .error _ => throw (.protocol (.notUtf8 line) (lossyText bytes))
  | .ok chars => do
      modify fun channel =>
        { channel with buffer := (channel.buffer.advance (bytes.length + 1)).2 }
      return String.ofList chars

/-- Reads until a line is whole, with a bound on the number of reads.  The first `searched` of
the unread bytes hold no end of a line and are not searched again. -/
def readLineWithin (line : HandshakeLine) : (bound searched : Nat) → ChannelStep String
  | 0, _ => refuse (.closedWhileReading line)
  | bound + 1, searched => do
      let channel ← get
      match lineBehind? searched channel.buffer.unread with
      | some bytes => takeLine line bytes
      | none =>
        let searched := channel.buffer.unreadLength
        if handshakeLineLimit ≤ searched ∨ channel.buffer.capacity ≤ searched then
          refuse (.lineTooLong line searched)
        let result ← fill none
        if result.status = .closed then refuse (.closedWhileReading line)
        readLineWithin line bound searched

/-- Reads a line of the handshake. -/
def readLine (line : HandshakeLine) : ChannelStep String := do
  let channel ← get
  readLineWithin line (channel.link.budget + 1) 0

end Channel

end TickWire
