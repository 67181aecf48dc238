import TickWire.Command.Output
import TickWire.Live.Session

/-!
# Streaming a session

The command that connects to a gateway, subscribes, and writes the records that arrive
until the limit is reached or the session ends.  It goes step by step, one attempt to
read a record each, so that what was written can be shown while the session lasts.
-/

namespace TickWire

/-- A session whose records are written. -/
structure LiveRun where
  session : Session
  output : RecordOutput
  /-- The number of records that are still wanted, where that is limited. -/
  remaining? : Option Nat
  /-- How long one read waits, in milliseconds. -/
  timeout : Nat

/-- How a command ended, and what was sent and written until then. -/
structure LiveReport where
  result : Except CommandError Unit
  sent : List Bytes
  place : OutputPlace

namespace LiveOptions

/-- The settings of the session. -/
def draft (options : LiveOptions) : SettingsDraft where
  key? := some options.key
  dataset? := some options.dataset
  gateway? := options.gateway?
  stamped := options.stamped
  policy := options.output.policy

/-- The data that is asked for. -/
def subscription (options : LiveOptions) : Subscription where
  symbols := options.symbols
  schema := options.schema
  symbology := options.symbology
  start? := options.start?.map parseReplayStart

end LiveOptions

namespace LiveRun

/-- How a run ends. -/
def report (run : LiveRun) (result : Except CommandError Unit) : LiveReport :=
  ⟨result, run.session.channel.link.sent, .present run.output.sink.written⟩

/-- Ends the session, and then the output. -/
def finish (run : LiveRun) : LiveReport :=
  match Session.stop run.session with
  | (.error error, session) => { run with session }.report (.error (.live error))
  | (.ok (), session) =>
      { run with session }.report (run.output.finish.mapError .format)

/-- Writes a record, and ends the run after the last one that is wanted. -/
def accept (run : LiveRun) (frame : Frame) : Except LiveReport LiveRun :=
  match run.output.writeFrame frame with
  | (.error error, output) => .error ({ run with output }.report (.error (.format error)))
  | (.ok (), output) =>
    match run.remaining? with
    | none => .ok { run with output }
    | some remaining =>
      if remaining ≤ 1 then .error { run with output }.finish
      else .ok { run with output, remaining? := some (remaining - 1) }

/-- Attempts to read and write one record. -/
def step (run : LiveRun) : Except LiveReport LiveRun :=
  match Session.nextRecord (some run.timeout) run.session with
  | (.ok none, session) => .ok { run with session }
  | (.ok (some frame), session) => { run with session }.accept frame
  | (.error .sessionClosed, session) => .error { run with session }.finish
  | (.error error, session) => .error ({ run with session }.report (.error (.live error)))

/-- Subscribes to data and starts. -/
def begin (options : LiveOptions) : SessionStep Metadata := do
  Session.subscribe options.subscription
  Session.start

/-- Opens the output of a session that has started.  As for a replay, the place holds
what is written before it is compressed. -/
def openOutput (options : LiveOptions) (place : OutputPlace) (metadata : Metadata)
    (session : Session) : Except LiveReport LiveRun :=
  match options.output.check place with
  | .error error => .error ⟨.error error, session.channel.link.sent, place⟩
  | .ok () =>
    let (result, output) := RecordOutput.start options.output metadata
    let run : LiveRun := {
      session, output
      remaining? := options.output.limit.map fun limit => limit.value.toNat
      timeout := options.timeout.toNat }
    match result with
    | .error error => .error (run.report (.error (.format error)))
    | .ok () => .ok run

/-- Connects over a link, subscribes and starts. -/
def ofLink (options : LiveOptions) (link : Link) (place : OutputPlace) :
    Except LiveReport LiveRun :=
  match options.draft.finish with
  | .error error => .error ⟨.error (.live error), link.sent, place⟩
  | .ok settings =>
    match Session.connect settings link with
    | (.error error, channel) => .error ⟨.error (.live error), channel.link.sent, place⟩
    | (.ok session, _) =>
      match begin options session with
      | (.error error, session) =>
          .error ⟨.error (.live error), session.channel.link.sent, place⟩
      | (.ok metadata, session) => openOutput options place metadata session

/-- Takes steps until the run ends, with a bound on their number. -/
def complete : (bound : Nat) → LiveRun → LiveReport
  | 0, run => run.finish
  | bound + 1, run =>
    match run.step with
    | .error report => report
    | .ok run => complete bound run

end LiveRun

/-- Streams a session.  Every step takes bytes or an event of the link. -/
def live (options : LiveOptions) (link : Link) (place : OutputPlace) : LiveReport :=
  match LiveRun.ofLink options link place with
  | .error report => report
  | .ok run =>
      run.complete (run.session.channel.link.budget
        + run.session.channel.buffer.unreadLength + 1)

end TickWire
