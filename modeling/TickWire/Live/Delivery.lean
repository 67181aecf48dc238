import TickWire.Live.Session

/-!
# Delivering records

A session that runs by itself and hands what it receives to a listener: the metadata
once, then each record, until the listener has enough, the session is stopped or an
error ends it.  Being stopped is no error.
-/

namespace TickWire

/-- What a listener wants after it was handed something. -/
structure Reaction where
  /-- Whether to go on. -/
  keepGoing : Bool := true
  /-- Whether the listener shuts the link down itself. -/
  shutsDown : Bool := false
  deriving DecidableEq, Repr

/-- Who the metadata and the records are handed to.  What a listener wants may depend on
all that it was handed before. -/
structure Listener where
  onMetadata : Metadata → Reaction
  onRecord : (earlier : List Frame) → Frame → Reaction

/-- What a listener is called with. -/
inductive Call
  | metadata (metadata : Metadata)
  | record (frame : Frame)

namespace Call

/-- The metadata that a call hands over, if it hands over any. -/
def metadata? : Call → Option Metadata
  | metadata found => some found
  | record _ => none

/-- The frame that a call hands over, if it hands over one. -/
def frame? : Call → Option Frame
  | metadata _ => none
  | record frame => some frame

/-- The frames that were handed over, in order. -/
def frames (calls : List Call) : List Frame := calls.filterMap frame?

end Call

/-- The calls of a listener in the order in which they were made, and how they ended. -/
structure Delivery where
  calls : List Call := []
  result : Except LiveError Unit
  session : Session

namespace Delivery

def metadata? (delivery : Delivery) : Option Metadata := delivery.calls.findSome? Call.metadata?

def frames (delivery : Delivery) : List Frame := Call.frames delivery.calls

end Delivery

namespace Session

/-- The session after a listener was handed something. -/
def react (reaction : Reaction) (session : Session) : Session :=
  let session := { session with
    channel := { session.channel with link := session.channel.link.tick } }
  if reaction.shutsDown then session.shutDown.2 else session

/-- Stops at the end of a delivery. -/
def finish (calls : List Call) (session : Session) : Delivery :=
  let (result, session) := stop session
  { calls, result, session }

/-- Stops after an error, whether or not that succeeds. -/
def abandon (calls : List Call) (error : LiveError) (session : Session) : Delivery :=
  { calls, result := .error error, session := (stop session).2 }

/-- Hands records to a listener that was called before, with a bound on the number of attempts
to read one. -/
def deliverWithin (listener : Listener) (timeout : Option Nat) :
    (bound : Nat) → (calls : List Call) → Session → Delivery
  | 0, calls, session => session.finish calls
  | bound + 1, calls, session =>
    match nextRecord timeout session with
    | (.ok none, session) => deliverWithin listener timeout bound calls session
    | (.ok (some frame), session) =>
      let reaction := listener.onRecord (Call.frames calls) frame
      let session := session.react reaction
      let calls := calls ++ [.record frame]
      if reaction.keepGoing then deliverWithin listener timeout bound calls session
      else session.finish calls
    | (.error .sessionClosed, session) => session.finish calls
    | (.error error, session) => session.abandon calls error

/-- Hands all records to a listener.  Every attempt to read one takes bytes or an event
of the link. -/
def deliverRecords (listener : Listener) (timeout : Option Nat) (calls : List Call)
    (session : Session) : Delivery :=
  deliverWithin listener timeout
    (session.channel.link.budget + session.channel.buffer.unreadLength + 1) calls session

/-- Starts a session and hands everything to a listener. -/
def deliver (listener : Listener) (timeout : Option Nat) (session : Session) : Delivery :=
  match start session with
  | (.error .sessionClosed, session) => { result := .ok (), session }
  | (.error error, session) => session.abandon [] error
  | (.ok metadata, session) =>
    (session.react (listener.onMetadata metadata)).deliverRecords listener timeout
      [.metadata metadata]

/-- Refuses to deliver the records of a session that is not ready for it. -/
def checkDeliverable (session : Session) : Except LiveError Unit :=
  if session.currentState = .subscribed then .ok ()
  else .error (.invalidState .deliver session.currentState)

end Session

end TickWire
