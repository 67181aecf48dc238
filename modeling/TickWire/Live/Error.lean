import TickWire.Error
import TickWire.Record.Kind

/-!
# Errors of a live session

Why connecting to a gateway, subscribing or streaming fails.  Each constructor is one
cause; `LiveError.kind` names the family and `LiveError.message` words it.
-/

namespace TickWire

/-- The number of characters of a valid key. -/
def keyLength : Nat := 32

/-- The name of the environment variable that may hold the key. -/
def keyVariable : String := "DATABENTO_API_KEY"

/-- Where a session stands. -/
inductive SessionState
  /-- Authenticated, nothing subscribed to. -/
  | idle
  | subscribed
  | streaming
  /-- Ended by either side. -/
  | stopped
  deriving DecidableEq, Repr

namespace SessionState

/-- The name in error texts. -/
def text : SessionState → String
  | idle => "idle"
  | subscribed => "subscribed"
  | streaming => "streaming"
  | stopped => "stopped"

/-- The name in diagnostic output. -/
def name : SessionState → String
  | idle => "Idle"
  | subscribed => "Subscribed"
  | streaming => "Streaming"
  | stopped => "Stopped"

end SessionState

/-- What can be asked of a session. -/
inductive Operation
  | subscribe
  | start
  | nextRecord
  | deliver
  deriving DecidableEq, Repr

def Operation.text : Operation → String
  | .subscribe => "subscribe"
  | .start => "start"
  | .nextRecord => "get next record"
  | .deliver => "spawn a threaded client"

/-- A setting or argument that cannot be used. -/
inductive ConfigurationFault
  | keyMissing
  | keyNotFound
  | keyNotAscii
  | keyLength (length : Nat)
  | datasetMissing
  | bufferBelowFrame
  | subscriptionLimitZero
  | noSymbols
  | emptySymbol (index : Nat)
  | reservedCharacter (symbol : String)
  | subscriptionTooLong (length limit : Nat)
  /-- The buffer is full and holds no whole message. -/
  | bufferFull (capacity : Nat)
  | recordBeyondBuffer (size capacity : Nat)
  deriving DecidableEq, Repr

namespace ConfigurationFault

/-- The name of the setting. -/
def setting : ConfigurationFault → String
  | keyMissing | keyNotFound | keyNotAscii | keyLength _ => "key"
  | datasetMissing => "dataset"
  | bufferBelowFrame | bufferFull _ | recordBeyondBuffer .. => "buffer_size"
  | subscriptionLimitZero => "max_subscription_len"
  | noSymbols | emptySymbol _ | reservedCharacter _ | subscriptionTooLong .. => "symbols"

def message : ConfigurationFault → String
  | keyMissing => "an API key is required"
  | keyNotFound => s!"couldn't read {keyVariable}: environment variable not found"
  | keyNotAscii => "must be ASCII"
  | keyLength length => s!"expected length of {TickWire.keyLength}, got {length}"
  | datasetMissing => "a dataset is required"
  | bufferBelowFrame => s!"must be at least {frameMaximumSize} bytes to hold any record"
  | subscriptionLimitZero => "must be positive"
  | noSymbols => "can't be empty"
  | emptySymbol index => s!"symbol at index {index} is empty"
  | reservedCharacter symbol =>
      "symbol '" ++ Quoted.escape symbol ++ "' contains a reserved character"
  | subscriptionTooLong length limit =>
      s!"subscription request of {length} bytes exceeds the maximum of {limit}"
  | bufferFull capacity =>
      s!"buffer of {capacity} bytes is full without containing a complete message"
  | recordBeyondBuffer size capacity =>
      s!"record of {size} bytes exceeds buffer capacity of {capacity} bytes"

end ConfigurationFault

/-- The lines that a gateway sends before the records. -/
inductive HandshakeLine
  | version
  | challenge
  | response
  deriving DecidableEq, Repr

def HandshakeLine.text : HandshakeLine → String
  | .version => "version line"
  | .challenge => "CRAM challenge"
  | .response => "authentication response"

/-- What is wrong with what a gateway sent before the records. -/
inductive ProtocolFault
  | challengeExpected
  | malformedResponse
  | malformedSessionId
  | notUtf8 (line : HandshakeLine)
  /-- So many bytes came without an end of the line. -/
  | lineTooLong (line : HandshakeLine) (length : Nat)
  | closedWhileReading (line : HandshakeLine)
  deriving DecidableEq, Repr

def ProtocolFault.message : ProtocolFault → String
  | .challengeExpected => "did not receive CRAM challenge when expected"
  | .malformedResponse => "malformed authentication response"
  | .malformedSessionId => "malformed session_id in authentication response"
  | .notUtf8 line => s!"{line.text} isn't valid UTF-8"
  | .lineTooLong line length =>
      s!"{line.text} exceeded {length} bytes without a newline"
  | .closedWhileReading line => s!"gateway closed the connection while reading {line.text}"

/-- Why a gateway does not let a client in. -/
inductive AuthenticationFault
  /-- The response does not say whether the client is let in. -/
  | noVerdict (line : String)
  /-- The client is not let in, for the reason that the gateway gives, if it does. -/
  | refused (reason? : Option String)
  deriving DecidableEq, Repr

def AuthenticationFault.message : AuthenticationFault → String
  | .noVerdict line =>
      s!"did not receive success indicator from authentication attempt: '{line}'"
  | .refused reason? => reason?.getD "no details"

/-- What a client was doing when the link failed. -/
inductive LinkActivity
  | authenticating
  | subscribing
  | starting
  | reading
  | readingMetadata
  | closing
  deriving DecidableEq, Repr

def LinkActivity.text : LinkActivity → String
  | .authenticating => "sending authentication request"
  | .subscribing => "sending subscription request"
  | .starting => "sending start session request"
  | .reading => "reading from gateway"
  | .readingMetadata => "reading metadata"
  | .closing => "closing connection"

/-- Why something asked of a session fails. -/
inductive LiveError
  | configuration (fault : ConfigurationFault)
  | protocol (fault : ProtocolFault) (received : String)
  | authentication (fault : AuthenticationFault)
  /-- The gateway closed the connection. -/
  | streamClosed
  /-- The session was stopped before. -/
  | sessionClosed
  | invalidState (operation : Operation) (state : SessionState)
  | link (failure : IoFailure) (activity : LinkActivity)
  /-- What the gateway sent cannot be decoded. -/
  | format (error : Error)
  deriving DecidableEq, Repr

namespace LiveError

/-- The name of the family that an error belongs to. -/
def kind : LiveError → String
  | configuration _ => "Configuration"
  | protocol .. => "Protocol"
  | authentication _ => "Authentication"
  | streamClosed => "StreamClosed"
  | sessionClosed => "SessionClosed"
  | invalidState .. => "InvalidState"
  | link .. => "LiveIo"
  | format error => error.kind

/-- What is said of an error. -/
def message : LiveError → String
  | configuration fault => s!"bad configuration of {fault.setting}: {fault.message}"
  | protocol fault received => s!"{fault.message}: '{received}'"
  | authentication fault => s!"failed to authenticate: {fault.message}"
  | streamClosed => "reached end of DBN stream"
  | sessionClosed => "session closed"
  | invalidState operation state =>
      s!"can't {operation.text} while the session is {state.text}"
  | link failure activity => s!"I/O error while {activity.text}: {failure.message}"
  | format error => error.message

end LiveError

end TickWire
