import TickWire.Live.Settings
import TickWire.Metadata.Decode
import TickWire.Record.Legacy

/-!
# Live sessions

A session goes through four states: it is authenticated when it is made, subscribes,
streams, and is stopped by either side.  Every operation says in which states it is
allowed.  Reads put what arrives into the buffer of the channel, and records are taken
off the buffer when they are whole, so it does not matter how the gateway divides them.
-/

namespace TickWire

/-- A session with a gateway. -/
structure Session where
  settings : Settings
  /-- The number that the gateway gave the session. -/
  number : UInt64
  state : SessionState := .idle
  channel : Channel
  upgradeBuffer : UpgradeBuffer := {}
  /-- The version of the records, once the session has started. -/
  version : UInt8 := formatVersion
  /-- Whether records are followed by the time of sending. -/
  stamped : Bool

/-- Steps of a session; what they did stays done when they fail. -/
abbrev SessionStep := ExceptT LiveError (StateM Session)

namespace Channel

/-- Sends a text. -/
def send (activity : LinkActivity) (text : String) : ChannelStep Unit := fun channel =>
  match channel.link.write (textBytes text) with
  | (.error failure, link) => (.error (.link failure activity), { channel with link })
  | (.ok (), link) => (.ok (), { channel with link })

/-- Closes the link. -/
def close : ChannelStep Unit := fun channel =>
  match channel.link.close with
  | (.error failure, link) => (.error (.link failure .closing), { channel with link })
  | (.ok (), link) => (.ok (), { channel with link })

/-- Looks whether the link was shut down. -/
def checkShutDown : ChannelStep Bool := fun channel =>
  let (isShutDown, link) := channel.link.checkShutDown
  (.ok isShutDown, { channel with link })

/-- Forgets what is unread. -/
def clear (channel : Channel) : Channel := { channel with buffer := channel.buffer.clear }

/-- Exchanges the lines before the records and gives the number of the session. -/
def handshake (settings : Settings) : ChannelStep UInt64 := do
  let _ ← readLine .version
  let challengeLine ← readLine .challenge
  let challenge ← parseChallenge challengeLine
  let reply := challengeReply challenge settings.key
  send .authenticating (authenticationLine reply settings.dataset settings.stamped)
  let response ← readLine .response
  parseResponse response

end Channel

namespace Session

/-- Makes a session over a link. -/
def connect (settings : Settings) (link : Link) : Except LiveError Session × Channel :=
  match Channel.handshake settings ⟨link, ByteBuffer.ofCapacity settings.bufferSize⟩ with
  | (.error error, channel) => (.error error, channel)
  | (.ok number, channel) =>
      (.ok { settings, number, channel, stamped := settings.stamped }, channel)

/-- The state, which a link that was shut down overrules. -/
def currentState (session : Session) : SessionState :=
  if session.channel.link.isShutDown then .stopped else session.state

/-- A step of the channel. -/
def onChannel {α : Type} (step : ChannelStep α) : SessionStep α := fun session =>
  let (result, channel) := step session.channel
  (result, { session with channel })

/-- What decoding gives. -/
def decoded {α : Type} : Except Error α → SessionStep α
  | .ok value => return value
  | .error error => throw (.format error)

/-- The bytes that arrived and were not consumed. -/
def unread : SessionStep Bytes := return (← get).channel.buffer.unread

/-- Consumes bytes that arrived. -/
def consume (count : Nat) : SessionStep Unit :=
  modify fun session =>
    { session with channel :=
        { session.channel with buffer := (session.channel.buffer.advance count).2 } }

/-- Forgets what arrived, and streams no more. -/
def halt (session : Session) : Session :=
  { session with state := .stopped, channel := session.channel.clear }

/-- Goes on only in one of the states that an operation is allowed in. -/
def require (operation : Operation) (allowed : List SessionState) : SessionStep Unit := do
  if ← onChannel Channel.checkShutDown then
    modify fun session => { session with state := .stopped }
  let session ← get
  if session.state = .stopped then throw .sessionClosed
  if session.state ∉ allowed then throw (.invalidState operation session.state)

/-- Ends the session when the connection is closed, by whichever side. -/
def closed {α : Type} : SessionStep α := do
  modify halt
  if ← onChannel Channel.checkShutDown then throw .sessionClosed
  throw .streamClosed

/-- Reads once; false where nothing arrives in time. -/
def fill (timeout : Option Nat) : SessionStep Bool := do
  let result ← onChannel (Channel.fill timeout)
  match result.status with
  | .ready => return true
  | .timeout => return false
  | .closed => closed

/-- Reads until `count` bytes are unread, with a bound on the number of reads; false
where a read does not end in time. -/
def awaitWithin (count : Nat) (timeout : Option Nat) : (bound : Nat) → SessionStep Bool
  | 0 => return false
  | bound + 1 => do
      if count ≤ (← unread).length then return true
      if ← fill timeout then awaitWithin count timeout bound else return false

/-- Reads until `count` bytes are unread, however long it takes, with a bound on the
number of reads. -/
def awaitAllWithin (count : Nat) : (bound : Nat) → SessionStep Unit
  | 0 => closed
  | bound + 1 => do
      if count ≤ (← unread).length then return
      let _ ← fill none
      awaitAllWithin count bound

/-- A bound on the number of reads until the connection is closed. -/
def budget : SessionStep Nat := return (← get).channel.link.budget + 1

/-- Reads until `count` bytes are unread; false where a read does not end in time. -/
def await (count : Nat) (timeout : Option Nat) : SessionStep Bool := do
  awaitWithin count timeout (← budget)

/-- Reads until `count` bytes are unread and gives them, without consuming them. -/
def receive (count : Nat) : SessionStep Bytes := do
  awaitAllWithin count (← budget)
  return (← unread).take count

/-- Takes what arrived, and the rest of `count` bytes past the buffer. -/
def receivePastBuffer (count : Nat) : SessionStep Bytes := do
  let front ← unread
  modify fun session => { session with channel := session.channel.clear }
  let session ← get
  let (result, link) := session.channel.link.readExact (count - front.length)
  set { session with channel := { session.channel with link } }
  match result with
  | .ok back => return front ++ back
  | .error .unexpectedEnd => closed
  | .error failure => throw (.link failure .readingMetadata)

/-- Receives the fields of a metadata block, past the buffer where they do not fit. -/
def receiveMetadata (version : UInt8) (length : Nat) : SessionStep Metadata := do
  if length ≤ (← get).channel.buffer.capacity then
    let metadata ← decoded (decodeMetadata version (← receive length))
    consume length
    return metadata
  else decoded (decodeMetadata version (← receivePastBuffer length))

/-- Asks for data. -/
def subscribe (subscription : Subscription) : SessionStep Unit := do
  require .subscribe [.idle, .subscribed]
  let line ← subscription.encode (← get).settings.subscriptionLimit
  onChannel (Channel.send .subscribing line)
  modify fun session => { session with state := .subscribed }

/-- Asks for the records and receives what stands before them. -/
def start : SessionStep Metadata := do
  require .start [.subscribed]
  onChannel (Channel.send .starting startLine)
  let (version, length) ← decoded (decodePrelude (← receive preludeSize))
  consume preludeSize
  let metadata ← receiveMetadata version length
  modify fun session =>
    { session with version, stamped := metadata.stamped, state := .streaming }
  return metadata.upgrade (← get).settings.policy

/-- Takes the next `size` bytes, which are one record, off the buffer. -/
def takeFrame (size : Nat) : SessionStep Frame := do
  let session ← get
  let buffer := Channel.realign session.channel.buffer
  let (bytes, rest) := buffer.take size
  set { session with channel := { session.channel with buffer := rest } }
  let (found, upgradeBuffer) ← decoded (decodeFrame session.version session.settings.policy
    session.stamped session.upgradeBuffer buffer.consumed bytes)
  modify fun session => { session with upgradeBuffer }
  return found.frame

/-- The next record; none where it is not whole in time.  What arrived of it stays. -/
def nextRecord (timeout : Option Nat) : SessionStep (Option Frame) := do
  require .nextRecord [.streaming]
  if !(← await 1 timeout) then return none
  let size := Header.sizeOfLength ((← unread).headD 0)
  if size < headerSize then throw (.format (.invalidLength (.recordBelowHeader size)))
  let capacity := (← get).channel.buffer.capacity
  if capacity < size then throw (.configuration (.recordBeyondBuffer size capacity))
  if !(← await size timeout) then return none
  return some (← takeFrame size)

/-- Ends the session; only the first time has an effect. -/
def stop : SessionStep Unit := do
  if (← get).state = .stopped then return
  modify halt
  onChannel Channel.close

/-- Shuts the link down without the knowledge of the session, which notices when it reads
or writes next. -/
def shutDown (session : Session) : Except IoFailure Unit × Session :=
  let (result, link) := session.channel.link.close
  (result, { session with channel := { session.channel with link } })

end Session

namespace Diagnostic

/-- A session, with the rest left out. -/
def session (session : Session) : String :=
  let settings := session.settings
  "Client \x7b dataset: " ++ Quoted.quote settings.dataset
    ++ ", gateway: " ++ Quoted.quote settings.host
    ++ ", port: " ++ toString settings.port.toNat
    ++ ", send_ts_out: " ++ flag settings.stamped
    ++ ", upgrade_policy: " ++ Coded.name settings.policy
    ++ ", session_id: " ++ toString session.number.toNat
    ++ ", state: " ++ session.state.name ++ ", .. \x7d"

/-- The handle by which a link is shut down, with the rest left out. -/
def shutdownHandle (link : Link) : String :=
  "ShutdownHandle \x7b requested: " ++ flag link.isShutDown ++ ", .. \x7d"

end Diagnostic

end TickWire
