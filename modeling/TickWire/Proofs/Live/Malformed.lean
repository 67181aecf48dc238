import TickWire.Proofs.Live.Interruption
import TickWire.Proofs.Live.Opening
import TickWire.Proofs.Live.Waiting
import TickWire.Proofs.Live.Writes

/-!
# Malformed records

What a session does after a record that cannot be decoded.  It goes on streaming, in one of
two ways.  A record whose first byte announces less than a header is not taken, so every
later call gives the same error until the link is shut down.  A record that is too short to
be upgraded is taken, and the bytes behind it are read as the next record.
-/

namespace TickWire

/-! ## Calls that give the same error -/

namespace Session

variable {session : Session}

theorem SameChannel.refl (session : Session) : session.SameChannel session :=
  ⟨rfl, rfl, rfl, rfl⟩

theorem SameChannel.trans {before middle after : Session} (one : before.SameChannel middle)
    (two : middle.SameChannel after) : before.SameChannel after where
  buffer_eq := two.buffer_eq.trans one.buffer_eq
  traffic := {
    sent_eq := two.traffic.sent_eq.trans one.traffic.sent_eq
    events_eq := two.traffic.events_eq.trans one.traffic.events_eq
    waits_eq := two.traffic.waits_eq.trans one.traffic.waits_eq }

/-- Once the link is shut down, no call gives anything. -/
theorem nextRecords_of_shut (shut : session.channel.link.tick.isShutDown = true)
    (timeouts : List (Option Nat)) :
    (session.nextRecords timeouts).1 =
        List.replicate timeouts.length (.error .sessionClosed) ∧
      session.SameChannel (session.nextRecords timeouts).2 := by
  induction timeouts generalizing session with
  | nil => exact ⟨rfl, .refl session⟩
  | cons timeout later ih =>
      have refused : nextRecord timeout session = (.error .sessionClosed, session.looked) := by
        rw [nextRecord, bind_of_error (require_shut shut .nextRecord _).1]
      have shutLooked : session.looked.channel.link.tick.isShutDown = true :=
        session.channel.link.tick.ages_tick.shutDown shut
      obtain ⟨results, same⟩ := ih shutLooked
      simp only [nextRecords, refused, results, List.length_cons, List.replicate_succ]
      exact ⟨trivial, session.sameChannel_looked.trans same⟩

/-- The first unread byte announces less than a header. -/
structure IsStuck (session : Session) (byte : UInt8) : Prop where
  streaming : session.state = .streaming
  begins : ∃ rest, session.channel.buffer.unread = byte :: rest
  below : Header.sizeOfLength byte < headerSize

/-- What is said of a record that announces less than a header. -/
def shortHeader (byte : UInt8) : Error :=
  .invalidLength (.recordBelowHeader (Header.sizeOfLength byte))

theorem await_of_enough {count : Nat} (enough : count ≤ session.channel.buffer.unread.length)
    (timeout : Option Nat) : await count timeout session = (.ok true, session) := by
  rw [await, bind_of_ok (budget_run _), awaitWithin, bind_of_ok (unread_run _), if_pos enough,
    pure_run]

namespace IsStuck

variable {byte : UInt8}

theorem nextRecord_of_open (stuck : session.IsStuck byte)
    (isOpen : session.channel.link.tick.isShutDown = false) (timeout : Option Nat) :
    nextRecord timeout session = (.error (.format (shortHeader byte)), session.looked) := by
  obtain ⟨rest, begins⟩ := stuck.begins
  have beginsLooked : session.looked.channel.buffer.unread = byte :: rest := begins
  have arrived : 1 ≤ session.looked.channel.buffer.unread.length := by
    rw [beginsLooked, List.length_cons]
    omega
  rw [nextRecord, bind_of_ok (require_open isOpen .nextRecord (by simp [stuck.streaming])
    (by simp [stuck.streaming])), bind_of_true (await_of_enough arrived timeout),
    bind_of_ok (unread_run _)]
  simp only [beginsLooked, List.headD_cons, if_pos stuck.below]
  exact bind_of_error (throw_run _ _)

theorem looked (stuck : session.IsStuck byte)
    (isOpen : session.channel.link.tick.isShutDown = false) : session.looked.IsStuck byte where
  streaming := (if_neg (ne_true_of_eq_false isOpen)).trans stuck.streaming
  begins := stuck.begins
  below := stuck.below

/-- Every call gives the same error and takes nothing, until the link is shut down. -/
theorem nextRecords_eq (stuck : session.IsStuck byte) (timeouts : List (Option Nat)) :
    ∃ calls ≤ timeouts.length,
      (session.nextRecords timeouts).1 =
        List.replicate calls (.error (.format (shortHeader byte)))
          ++ List.replicate (timeouts.length - calls) (.error .sessionClosed) ∧
      session.SameChannel (session.nextRecords timeouts).2 ∧
      (session.channel.link.IsUndisturbed → calls = timeouts.length) := by
  induction timeouts generalizing session with
  | nil => exact ⟨0, Nat.le_refl 0, rfl, .refl session, fun _ => rfl⟩
  | cons timeout later ih =>
      cases shut : session.channel.link.tick.isShutDown with
      | false =>
          obtain ⟨calls, atMost, results, same, all⟩ := ih (stuck.looked shut)
          refine ⟨calls + 1, Nat.succ_le_succ atMost, ?_, ?_, ?_⟩
          · simp only [nextRecords, stuck.nextRecord_of_open shut, results, List.length_cons,
              List.replicate_succ, List.cons_append, Nat.add_sub_add_right]
          · simp only [nextRecords, stuck.nextRecord_of_open shut]
            exact session.sameChannel_looked.trans same
          · intro undisturbed
            exact congrArg Nat.succ (all (session.channel.link.reads_tick.undisturbed undisturbed))
      | true =>
          obtain ⟨results, same⟩ := nextRecords_of_shut shut (timeout :: later)
          refine ⟨0, Nat.zero_le _, results, same, fun undisturbed => ?_⟩
          have isOpen := (session.channel.link.reads_tick.undisturbed undisturbed).isOpen
          rw [isOpen] at shut
          cases shut

end IsStuck

/-- A whole frame that is unread is what a call gives. -/
theorem nextRecord_of_frame (streaming : session.state = .streaming)
    (isOpen : session.channel.link.tick.isShutDown = false) {frame : Frame} {following : Bytes}
    (front : session.channel.buffer.unread = frame.bytes ++ following) (timeout : Option Nat) :
    (nextRecord timeout session).1 = session.resultOf frame := by
  have frontLooked : session.looked.channel.buffer.unread = frame.bytes ++ following := front
  have header := frame.headerSize_le_length
  have enough : frame.bytes.length ≤ session.looked.channel.buffer.unread.length := by
    rw [frontLooked, List.length_append]
    exact Nat.le_add_right _ _
  have arrived : 1 ≤ session.looked.channel.buffer.unread.length :=
    Nat.le_trans (Nat.le_trans (by decide) header) enough
  have announced : Header.sizeOfLength (session.looked.channel.buffer.unread.headD 0) =
      frame.bytes.length := by
    rw [frontLooked, frame.headD_bytes_append, frame.length_eq]
  have fits : frame.bytes.length ≤ session.looked.channel.buffer.capacity := by
    rw [ByteBuffer.length_unread] at enough
    exact Nat.le_trans enough session.looked.channel.buffer.unreadLength_le_capacity
  obtain ⟨upgradeBuffer, taken⟩ := takeFrame_eq frontLooked
  rw [nextRecord, bind_of_ok (require_open isOpen .nextRecord (by simp [streaming])
    (by simp [streaming])), bind_of_true (await_of_enough arrived timeout),
    bind_of_ok (unread_run _)]
  simp only [announced, if_neg (Nat.not_lt.mpr header)]
  rw [bind_of_ok (get_run _)]
  simp only [if_neg (Nat.not_lt.mpr fits)]
  rw [bind_of_true (await_of_enough enough timeout), map_run taken some]
  rfl

theorem resultOf_of_refused {frame : Frame} {error : Error}
    (refused : frame.decodeAlone session.version session.settings.policy session.stamped =
      .error error) : session.resultOf frame = .error (.format error) := by
  rw [resultOf, refused]
  rfl

/-! ## After a malformed record -/

/-- How a session goes on after a record that cannot be decoded. -/
inductive GoesOn (session : Session) (error : Error) (after : Session) : Prop where
  /-- The record announces less than a header.  It stays, and every later call gives the same
  error, until the link is shut down; nothing is read or written any more. -/
  | repeats {arrived rest : Bytes} {byte : UInt8}
      (error_eq : error = .invalidLength (.recordBelowHeader (Header.sizeOfLength byte)))
      (below : Header.sizeOfLength byte < headerSize)
      (queue_eq : session.channel.buffer.unread ++ arrived = byte :: rest)
      (unread_eq : after.channel.buffer.unread = byte :: rest)
      (later : ∀ timeouts : List (Option Nat), ∃ calls ≤ timeouts.length,
        (after.nextRecords timeouts).1 =
          List.replicate calls (.error (.format error))
            ++ List.replicate (timeouts.length - calls) (.error .sessionClosed) ∧
        after.SameChannel (after.nextRecords timeouts).2 ∧
        (after.channel.link.IsUndisturbed → calls = timeouts.length))
  /-- The record is whole and refused, which in a version that can be read happens only where
  it is to be upgraded and is too short.  It is taken, and the frame behind it is read. -/
  | skips {arrived : Bytes} {frame : Frame}
      (refused : frame.decodeAlone session.version session.settings.policy session.stamped =
        .error error)
      (legacy : session.version ≤ formatVersion →
        session.version = 1 ∧ session.settings.policy = .upgrade ∧
          ∃ typeName, error = .recordTooShort frame.size typeName)
      (queue_eq : session.channel.buffer.unread ++ arrived =
        frame.bytes ++ after.channel.buffer.unread)
      (later : ∀ (timeout : Option Nat) (next : Frame) (following : Bytes),
        after.channel.buffer.unread = next.bytes ++ following →
        after.channel.link.tick.isShutDown = false →
        (nextRecord timeout after).1 = after.resultOf next)

/-- A record that cannot be decoded does not end a session, over any link.  It streams on, and
only shutting the link down stops it. -/
theorem nextRecord_malformed (session : Session) (timeout : Option Nat) (error : Error)
    (after : Session) (failed : nextRecord timeout session = (.error (.format error), after)) :
    after.state = .streaming ∧
      (after.channel.link.isShutDown = false → after.currentState = .streaming) ∧
      session.GoesOn error after := by
  have called := session.nextRecord_end timeout
  generalize nextRecord timeout session = outcome at called failed
  -- Only a record that begins too short and one that is refused are errors of the format.
  cases called with
  | stopped | refused => cases failed
  | read streaming ended =>
      have goesOn (arrived taken : Bytes) (passed : session.looked.Passed arrived taken after) :
          after.state = .streaming ∧
            (after.channel.link.isShutDown = false → after.currentState = .streaming) := by
        have still := passed.state_eq.trans streaming
        exact ⟨still, fun isOpen => (if_neg (ne_true_of_eq_false isOpen)).trans still⟩
      cases ended with
      | ended ended =>
          have closed := ended.error_eq
          cases failed
          split at closed <;> cases closed
      | late => cases failed
      | failed passed fault => cases fault <;> cases failed
      | @short arrived rest byte _ passed begins below =>
          cases failed
          have stuck : after.IsStuck byte :=
            ⟨passed.state_eq.trans streaming, ⟨rest, begins⟩, below⟩
          refine ⟨(goesOn _ _ passed).1, (goesOn _ _ passed).2, ?_⟩
          exact .repeats rfl below (passed.queue_eq.trans begins) begins stuck.nextRecords_eq
      | @taken arrived frame _ passed =>
          cases decoded : frame.decodeAlone session.version session.settings.policy
              session.stamped with
          | ok found =>
              rw [session.looked.resultOf_of_decode decoded] at failed
              cases failed
          | error refused =>
              have result : session.looked.resultOf frame = .error (.format refused) :=
                resultOf_of_refused decoded
              rw [result] at failed
              cases failed
              have streamingAfter := (goesOn _ _ passed).1
              refine ⟨streamingAfter, (goesOn _ _ passed).2, ?_⟩
              exact .skips decoded
                (fun known => (Frame.error_of_decodeAlone decoded).resolve_left fun beyond =>
                  UInt8.not_lt.mpr known beyond.1)
                passed.queue_eq fun timeout next following front isOpen =>
                  nextRecord_of_frame streamingAfter isOpen front timeout

/-- A record that is too short to be upgraded, and another one behind it. -/
theorem nextRecord_malformed_too_short :
    let frames := [RecordDecoder.bareFrame 0x15, RecordDecoder.bareFrame 0x00]
    let empty := ByteBuffer.ofCapacity Settings.smallest.bufferSize
    let session : Session := {
      settings := .smallest
      number := 7
      state := .streaming
      version := 1
      channel := ⟨{ events := [] }, ((empty.fill (Frame.concat frames)).commit 32).2⟩
      stamped := false }
    let error := Error.recordTooShort 16 "dbn::compat::ErrorMsgV1"
    ∃ after, nextRecord (some 0) session = (.error (.format error), after) ∧
      after.state = .streaming ∧
      (after.channel.link.isShutDown = false → after.currentState = .streaming) ∧
      session.GoesOn error after := by
  intro frames empty session error
  have front : session.channel.buffer.unread =
      (RecordDecoder.bareFrame 0x15).bytes ++ (RecordDecoder.bareFrame 0x00).bytes := by
    have fits : (Frame.concat frames).length ≤ empty.spareLength := by decide
    have filled : session.channel.buffer.unread = empty.unread ++ Frame.concat frames :=
      empty.unread_commit_fill fits
    rw [filled]
    rfl
  have refused : session.resultOf (RecordDecoder.bareFrame 0x15) = .error (.format error) := rfl
  have result := (nextRecord_of_frame rfl rfl front (some 0)).trans refused
  obtain ⟨⟨found, after⟩, called⟩ : ∃ outcome, nextRecord (some 0) session = outcome := ⟨_, rfl⟩
  rw [called] at result
  obtain rfl : found = .error (.format error) := result
  exact ⟨after, called, nextRecord_malformed session (some 0) error after called⟩

/-! ## One record repeated -/

/-- A gateway that sends a record which announces less than a header gets it refused. -/
theorem nextRecord_short (streaming : session.IsStreaming) {byte : UInt8} {rest : Bytes}
    (comes : session.channel.incoming = byte :: rest)
    (below : Header.sizeOfLength byte < headerSize)
    (prompt : session.channel.link.timeouts = 0) (timeout : Option Nat) :
    ∃ after, nextRecord timeout session = (.error (.format (shortHeader byte)), after) ∧
      after.IsStuck byte ∧ after.channel.link.IsSteady := by
  have room : 1 ≤ session.channel.buffer.capacity := Nat.le_trans (by decide) streaming.roomy
  rw [nextRecord, bind_of_ok (require_run streaming.steady .nextRecord
    (by simp [streaming.streaming]) (by simp [streaming.streaming]))]
  generalize awaited : await 1 timeout session = outcome
  cases awaited ▸ await_outcome streaming.steady room timeout with
  | ended short =>
      rw [comes, List.length_cons] at short
      omega
  | late took timeouts => omega
  | @whole after took enough =>
      obtain ⟨first, following, begins⟩ := List.exists_cons_of_length_pos enough
      obtain ⟨rfl, -⟩ : byte = first ∧ rest = following ++ after.channel.link.pending := by
        have incoming := comes.symm.trans took.channel.incoming_eq
        rwa [Channel.incoming, begins, List.nil_append, List.cons_append, List.cons_eq_cons]
          at incoming
      rw [bind_of_true awaited, bind_of_ok (unread_run _)]
      simp only [begins, List.headD_cons, if_pos below]
      exact ⟨after, bind_of_error (throw_run _ _),
        ⟨took.state_eq.trans streaming.streaming, ⟨following, begins⟩, below⟩,
        took.channel.steady⟩

end Session

/-- A client that is let in, asks for data and starts has what is behind the metadata block
still to come. -/
theorem Link.Admits.streams {link : Link} {settings : Settings} {challenge : String}
    {block : MetadataBlock} {later : Bytes}
    (admits : link.Admits settings challenge (block.bytes ++ later))
    {subscription : Subscription} {line : String}
    (encoded : subscription.encode settings.subscriptionLimit = .ok line) :
    ∃ session channel after, Session.connect settings link = (.ok session, channel) ∧
      session.performAll [.request (.subscribe subscription), .request .start] = after ∧
      after.IsStreaming ∧ after.channel.incoming = later ∧
      after.channel.link.timeouts ≤ link.timeouts := by
  obtain ⟨session, channel, ready, connected, asked, isReady⟩ := admits.ready encoded
  obtain ⟨after, ran, started⟩ := Session.start_run isReady.subscribed isReady.steady
    (by simp [isReady.unlimited]) isReady.roomy block isReady.incoming_eq
  have subscribed : SessionAction.perform (.request (.subscribe subscription)) session = ready := by
    rw [SessionAction.perform, Request.perform, bind_of_ok asked]
    rfl
  have starts : SessionAction.perform (.request .start) ready = after := by
    rw [SessionAction.perform, Request.perform, bind_of_ok ran]
    rfl
  refine ⟨session, channel, after, connected, ?_, started.streaming, started.incoming_eq,
    Nat.le_trans started.timeouts_le isReady.timeouts_le⟩
  rw [Session.performAll, List.foldl_cons, subscribed, List.foldl_cons, starts, List.foldl_nil]

/-- A link over which a client is let in and starts, and then meets a record of no words. -/
def Link.belittling : Link where
  events := [.arrival (textBytes "lsg\ncram=c0ffee\nsuccess=1|session_id=7\n"),
    .arrival (Metadata.isStorable_ofOneDay.block.bytes ++ [0])]

/-- A record of no words is refused again by each call, and the session still streams. -/
theorem Session.nextRecord_refused_again :
    let actions : List SessionAction := [.request (.subscribe .ofOneSymbol), .request .start]
    let error := LiveError.format (.invalidLength (.recordBelowHeader 0))
    ∃ session channel, connect .brief .belittling = (.ok session, channel) ∧
      (session.performAll actions).currentState = .streaming ∧
      ∃ after, nextRecord none (session.performAll actions) = (.error error, after) ∧
        after.currentState = .streaming ∧
        (∀ timeout, (nextRecord timeout after).1 = .error error) ∧
        ¬(after.currentState = .stopped ∧
          ∀ timeout, (nextRecord timeout after).1 = .error .sessionClosed) := by
  intro actions error
  have isLine : ∀ line ∈ ["lsg", "cram=" ++ "c0ffee", "success=1|session_id=7"],
      Channel.IsLine (ByteBuffer.ofCapacity Settings.brief.bufferSize).capacity line := by
    decide
  have lines : textBytes "lsg\ncram=c0ffee\nsuccess=1|session_id=7\n" =
      Channel.lineBytes "lsg" ++ Channel.lineBytes ("cram=" ++ "c0ffee")
        ++ Channel.lineBytes "success=1|session_id=7" := by
    decide
  have arrives : Link.belittling.pending = Channel.lineBytes "lsg"
      ++ Channel.lineBytes ("cram=" ++ "c0ffee") ++ Channel.lineBytes "success=1|session_id=7"
      ++ (Metadata.isStorable_ofOneDay.block.bytes ++ [0]) := by
    rw [← lines]
    simp [Link.pending, Link.belittling, LinkEvent.bytes]
  have steady : Link.belittling.IsSteady := ⟨rfl, rfl, by simp [Link.belittling, LinkEvent.isCalm]⟩
  have admits : Link.belittling.Admits .brief "c0ffee"
      (Metadata.isStorable_ofOneDay.block.bytes ++ [0]) :=
    ⟨steady, rfl, "lsg", "success=1|session_id=7", 7, arrives, isLine, rfl⟩
  obtain ⟨session, channel, started, connected, performed, streaming, comes, few⟩ :=
    admits.streams Subscription.encode_ofOneSymbol
  have prompt : started.channel.link.timeouts = 0 := Nat.le_zero.mp few
  obtain ⟨after, failed, stuck, steadyAfter⟩ :=
    nextRecord_short streaming comes (by decide) prompt none
  have fault : shortHeader 0 = .invalidLength (.recordBelowHeader 0) := rfl
  rw [fault] at failed
  have isOpen : after.channel.link.tick.isShutDown = false := by
    rw [steadyAfter.tick_eq]
    exact steadyAfter.isOpen
  have streamsOn : after.currentState = .streaming :=
    (if_neg (ne_true_of_eq_false steadyAfter.isOpen)).trans stuck.streaming
  refine ⟨session, channel, connected, ?_⟩
  rw [performed]
  refine ⟨?_, after, failed, streamsOn, ?_, ?_⟩
  · rw [currentState, streaming.steady.isOpen]
    exact streaming.streaming
  · intro timeout
    rw [stuck.nextRecord_of_open isOpen timeout, fault]
  · rintro ⟨stopped, -⟩
    rw [streamsOn] at stopped
    cases stopped

end TickWire
