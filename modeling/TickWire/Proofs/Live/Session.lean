import TickWire.Proofs.Live.Channel

/-!
# Receiving in a session

What the steps of a session do when its link is steady.  Waiting takes nothing; what is
received is the front of what comes in, whether it lies in the buffer or is read past it.
A step that the end of the connection ends leaves the session stopped.
-/

namespace TickWire.Session

/-- What receiving does to a session: bytes from the front of those that come in are
taken, and at most the copy of an upgraded record is another one. -/
structure Took (before : Session) (bytes : Bytes) (after : Session) : Prop where
  channel : before.channel.Took bytes after.channel
  frame : after =
    { before with channel := after.channel, upgradeBuffer := after.upgradeBuffer }

namespace Took

variable {before middle after : Session} {first second : Bytes}

theorem refl (steady : before.channel.link.IsSteady) : before.Took [] before :=
  ⟨.refl steady, rfl⟩

theorem trans (one : before.Took first middle) (two : middle.Took second after) :
    before.Took (first ++ second) after where
  channel := one.channel.trans two.channel
  frame := by rw [two.frame, one.frame]

theorem of_channel {channel : Channel} (took : before.channel.Took first channel) :
    before.Took first { before with channel } :=
  ⟨took, rfl⟩

theorem settings_eq (took : before.Took first after) : after.settings = before.settings := by
  rw [took.frame]

theorem state_eq (took : before.Took first after) : after.state = before.state := by
  rw [took.frame]

theorem version_eq (took : before.Took first after) : after.version = before.version := by
  rw [took.frame]

theorem stamped_eq (took : before.Took first after) : after.stamped = before.stamped := by
  rw [took.frame]

end Took

/-- A session that has ended, over a link that nothing disturbs. -/
structure HasStopped (session : Session) : Prop where
  stopped : session.state = .stopped
  steady : session.channel.link.IsSteady

variable {session : Session}

theorem unread_run (session : Session) :
    unread session = (.ok session.channel.buffer.unread, session) := rfl

theorem budget_run (session : Session) :
    budget session = (.ok (session.channel.link.budget + 1), session) := rfl

theorem decoded_run {α : Type} (value : α) (session : Session) :
    decoded (.ok value) session = (.ok value, session) := rfl

theorem onChannel_run {α : Type} {step : ChannelStep α} {result : Except LiveError α}
    {channel : Channel} (ran : step session.channel = (result, channel)) :
    onChannel step session = (result, { session with channel }) := by
  simp only [onChannel, ran]

theorem checkShutDown_run (steady : session.channel.link.IsSteady) :
    onChannel Channel.checkShutDown session = (.ok false, session) :=
  onChannel_run (Channel.checkShutDown_eq steady)

theorem require_run (steady : session.channel.link.IsSteady) (operation : Operation)
    {allowed : List SessionState} (isAllowed : session.state ∈ allowed)
    (running : session.state ≠ .stopped) :
    require operation allowed session = (.ok (), session) := by
  rw [require, bind_of_ok (checkShutDown_run steady)]
  simp only [Bool.false_eq_true, if_false]
  rw [bind_of_ok (get_run _), if_neg running, if_neg (not_not_intro isAllowed), pure_run]

/-- Nothing is allowed in a session that has ended. -/
theorem require_of_stopped (ended : session.HasStopped) (operation : Operation)
    (allowed : List SessionState) :
    require operation allowed session = (.error .sessionClosed, session) := by
  rw [require, bind_of_ok (checkShutDown_run ended.steady)]
  simp only [Bool.false_eq_true, if_false]
  rw [bind_of_ok (get_run _), if_pos ended.stopped, bind_of_error (throw_run _ _)]

theorem closed_run {α : Type} (steady : session.channel.link.IsSteady) :
    (closed : SessionStep α) session = (.error .streamClosed, session.halt) := by
  have steadyHalted : session.halt.channel.link.IsSteady := steady
  rw [closed, bind_of_ok (modify_run _ _), bind_of_ok (checkShutDown_run steadyHalted)]
  simp only [Bool.false_eq_true, if_false, throw_run]

theorem hasStopped_halt (steady : session.channel.link.IsSteady) : session.halt.HasStopped :=
  ⟨rfl, steady⟩

/-- How a fill in a session over a steady link can end. -/
inductive FillOutcome (session : Session) : Except LiveError Bool × Session → Prop where
  | ended {after : Session} (nothing : session.channel.link.pending = [])
      (stopped : after.HasStopped) : FillOutcome session (.error .streamClosed, after)
  | late {after : Session} (took : session.Took [] after)
      (timeouts : after.channel.link.timeouts + 1 = session.channel.link.timeouts)
      (budget : after.channel.link.budget < session.channel.link.budget) :
      FillOutcome session (.ok false, after)
  | arrived {after : Session} (took : session.Took [] after)
      (budget : after.channel.link.budget < session.channel.link.budget) :
      FillOutcome session (.ok true, after)

theorem fill_outcome (steady : session.channel.link.IsSteady)
    (room : session.channel.buffer.unread.length < session.channel.buffer.capacity)
    (timeout : Option Nat) : session.FillOutcome (fill timeout session) := by
  generalize given : Channel.fill timeout session.channel = outcome
  rw [fill]
  cases given ▸ Channel.fill_outcome steady room timeout with
  | @ended channel nothing took =>
      have steadyAfter : { session with channel }.channel.link.IsSteady := took.steady
      rw [bind_of_ok (onChannel_run given)]
      dsimp only
      rw [closed_run steadyAfter]
      exact .ended nothing (hasStopped_halt steadyAfter)
  | late took unread timeouts budget =>
      rw [bind_of_ok (onChannel_run given)]
      exact .late (.of_channel took) timeouts budget
  | arrived took unread budget =>
      rw [bind_of_ok (onChannel_run given)]
      exact .arrived (.of_channel took) budget

/-! ## Waiting -/

/-- How waiting for `count` unread bytes can end. -/
inductive AwaitOutcome (session : Session) (count : Nat) :
    Except LiveError Bool × Session → Prop where
  /-- So many bytes never come in. -/
  | ended {after : Session} (short : session.channel.incoming.length < count)
      (stopped : after.HasStopped) : AwaitOutcome session count (.error .streamClosed, after)
  | late {after : Session} (took : session.Took [] after)
      (timeouts : after.channel.link.timeouts < session.channel.link.timeouts) :
      AwaitOutcome session count (.ok false, after)
  | whole {after : Session} (took : session.Took [] after)
      (enough : count ≤ after.channel.buffer.unread.length) :
      AwaitOutcome session count (.ok true, after)

theorem awaitWithin_outcome (steady : session.channel.link.IsSteady) {count bound : Nat}
    (enough : session.channel.link.budget < bound)
    (fits : count ≤ session.channel.buffer.capacity) (timeout : Option Nat) :
    session.AwaitOutcome count (awaitWithin count timeout bound session) := by
  induction bound generalizing session with
  | zero => contradiction
  | succ bound ih =>
      rw [awaitWithin, bind_of_ok (unread_run _)]
      split
      next whole => exact .whole (.refl steady) whole
      next missing =>
        generalize given : fill timeout session = outcome
        cases given ▸ fill_outcome steady (by omega) timeout with
        | ended nothing stopped =>
            rw [bind_of_error given]
            refine .ended ?_ stopped
            rw [Channel.incoming, nothing, List.append_nil]
            omega
        | late took timeouts budget =>
            rw [bind_of_ok given]
            exact .late took (by omega)
        | @arrived middle took budget =>
            rw [bind_of_ok given]
            have incoming : session.channel.incoming = middle.channel.incoming :=
              took.channel.incoming_eq
            simp only [if_true]
            generalize awaited : awaitWithin count timeout bound middle = outcome
            cases awaited ▸ ih took.channel.steady (by omega)
              (took.channel.capacity_eq ▸ fits) with
            | ended short stopped => exact .ended (incoming ▸ short) stopped
            | late tookMore timeouts =>
                exact .late (took.trans tookMore)
                  (Nat.lt_of_lt_of_le timeouts took.channel.timeouts_le)
            | whole tookMore enough => exact .whole (took.trans tookMore) enough

theorem await_outcome (steady : session.channel.link.IsSteady) {count : Nat}
    (fits : count ≤ session.channel.buffer.capacity) (timeout : Option Nat) :
    session.AwaitOutcome count (await count timeout session) := by
  rw [await, bind_of_ok (budget_run _)]
  exact awaitWithin_outcome steady (Nat.lt_succ_self _) fits timeout

/-! ## Receiving all of it -/

/-- What comes in is received, with all timeouts waited for. -/
theorem awaitAllWithin_run (steady : session.channel.link.IsSteady) {count bound : Nat}
    (enough : session.channel.link.budget < bound)
    (fits : count ≤ session.channel.buffer.capacity)
    (comes : count ≤ session.channel.incoming.length) :
    ∃ after, awaitAllWithin count bound session = (.ok (), after) ∧ session.Took [] after ∧
      count ≤ after.channel.buffer.unread.length := by
  induction bound generalizing session with
  | zero => contradiction
  | succ bound ih =>
      rw [awaitAllWithin, bind_of_ok (unread_run _)]
      split
      next whole => exact ⟨session, rfl, .refl steady, whole⟩
      next missing =>
        have goOn {result : Bool} {middle : Session}
            (filled : fill none session = (.ok result, middle)) (took : session.Took [] middle)
            (budget : middle.channel.link.budget < session.channel.link.budget) :
            ∃ after, (fill none >>= fun _ => awaitAllWithin count bound) session =
                (.ok (), after) ∧
              session.Took [] after ∧ count ≤ after.channel.buffer.unread.length := by
          have incoming : session.channel.incoming = middle.channel.incoming :=
            took.channel.incoming_eq
          obtain ⟨after, awaited, tookMore, whole⟩ := ih took.channel.steady (by omega)
            (took.channel.capacity_eq ▸ fits) (incoming ▸ comes)
          exact ⟨after, by rw [bind_of_ok filled, awaited], took.trans tookMore, whole⟩
        generalize given : fill none session = outcome
        cases given ▸ fill_outcome steady (by omega) none with
        | ended nothing stopped =>
            rw [Channel.incoming, nothing, List.append_nil] at comes
            contradiction
        | late took timeouts budget => exact goOn given took budget
        | arrived took budget => exact goOn given took budget

theorem receive_run (steady : session.channel.link.IsSteady) {bytes later : Bytes}
    (fits : bytes.length ≤ session.channel.buffer.capacity)
    (comes : session.channel.incoming = bytes ++ later) :
    ∃ after, receive bytes.length session = (.ok bytes, after) ∧ session.Took [] after ∧
      bytes.length ≤ after.channel.buffer.unread.length := by
  obtain ⟨after, awaited, took, enough⟩ := awaitAllWithin_run steady (Nat.lt_succ_self _) fits
    (by simp [comes])
  obtain ⟨following, front, -⟩ := Channel.unread_eq_append
    (took.channel.incoming_eq.symm.trans comes) enough
  refine ⟨after, ?_, took, enough⟩
  rw [receive, bind_of_ok (budget_run _), bind_of_ok awaited, bind_of_ok (unread_run _), front,
    List.take_left, pure_run]

theorem consume_run (steady : session.channel.link.IsSteady) {bytes later : Bytes}
    (comes : session.channel.incoming = bytes ++ later)
    (enough : bytes.length ≤ session.channel.buffer.unread.length) :
    ∃ after, consume bytes.length session = (.ok (), after) ∧ session.Took bytes after :=
  ⟨_, modify_run _ _, .of_channel (Channel.took_advance steady comes enough)⟩

/-- Past the buffer, too, the front of what comes in is received. -/
theorem receivePastBuffer_run (steady : session.channel.link.IsSteady) {bytes later : Bytes}
    (beyond : session.channel.buffer.capacity < bytes.length)
    (comes : session.channel.incoming = bytes ++ later) :
    ∃ after, receivePastBuffer bytes.length session = (.ok bytes, after) ∧
      session.Took bytes after := by
  have unreadLength := session.channel.buffer.unreadLength_le_capacity
  rw [← ByteBuffer.length_unread] at unreadLength
  obtain ⟨back, split, pending⟩ : ∃ back, bytes = session.channel.buffer.unread ++ back ∧
      session.channel.link.pending = back ++ later := by
    rcases List.append_eq_append_iff.mp comes with found | ⟨extra, split, -⟩
    · exact found
    · have := congrArg List.length split
      rw [List.length_append] at this
      omega
  subst split
  have missing : (session.channel.buffer.unread ++ back).length -
      session.channel.buffer.unread.length = back.length := by
    simp
  obtain ⟨link, read, gave⟩ := Link.readExact_eq steady pending
  have readCleared : session.channel.clear.link.readExact back.length = (.ok back, link) := read
  refine ⟨{ session with channel := { session.channel.clear with link } }, ?_, ?_⟩
  · rw [receivePastBuffer, bind_of_ok (unread_run _), bind_of_ok (modify_run _ _),
      bind_of_ok (get_run _)]
    simp only [missing, readCleared]
    exact bind_of_ok (set_run _ _)
  · refine .of_channel ⟨?_, gave.steady, gave.timeouts_le, rfl, gave.frame⟩
    simp only [Channel.incoming, Channel.clear, ByteBuffer.unread_clear, gave.pending_eq,
      List.nil_append, List.append_assoc]

/-- The fields of a metadata block are received, in the buffer or past it, and decoded. -/
theorem receiveMetadata_eq (steady : session.channel.link.IsSteady) {fields later : Bytes}
    (comes : session.channel.incoming = fields ++ later) (version : UInt8) :
    (∀ {error : Error}, decodeMetadata version fields = .error error →
      ∃ after, receiveMetadata version fields.length session = (.error (.format error), after)) ∧
    ∀ {metadata : Metadata}, decodeMetadata version fields = .ok metadata →
      ∃ after, receiveMetadata version fields.length session = (.ok metadata, after) ∧
        session.Took fields after := by
  rw [receiveMetadata, bind_of_ok (get_run _)]
  split
  next fits =>
    obtain ⟨middle, received, tookNone, enough⟩ := receive_run steady fits comes
    obtain ⟨after, consumed, took⟩ := consume_run tookNone.channel.steady
      (tookNone.channel.incoming_eq.symm.trans comes) enough
    rw [bind_of_ok received]
    constructor
    · intro error refused
      rw [refused]
      exact ⟨middle, bind_of_error rfl⟩
    · intro metadata accepted
      rw [accepted, bind_of_ok (decoded_run _ _), bind_of_ok consumed]
      exact ⟨after, rfl, tookNone.trans took⟩
  next beyond =>
    obtain ⟨after, received, took⟩ :=
      receivePastBuffer_run steady (Nat.lt_of_not_le beyond) comes
    rw [bind_of_ok received]
    constructor
    · intro error refused
      rw [refused]
      exact ⟨after, rfl⟩
    · intro metadata accepted
      rw [accepted, decoded_run]
      exact ⟨after, rfl, took⟩

theorem receiveMetadata_run (steady : session.channel.link.IsSteady) {fields later : Bytes}
    (comes : session.channel.incoming = fields ++ later) {version : UInt8}
    {metadata : Metadata} (accepted : decodeMetadata version fields = .ok metadata) :
    ∃ after, receiveMetadata version fields.length session = (.ok metadata, after) ∧
      session.Took fields after :=
  (receiveMetadata_eq steady comes version).2 accepted

theorem receiveMetadata_refused (steady : session.channel.link.IsSteady) {fields later : Bytes}
    (comes : session.channel.incoming = fields ++ later) {version : UInt8} {error : Error}
    (refused : decodeMetadata version fields = .error error) :
    ∃ after, receiveMetadata version fields.length session = (.error (.format error), after) :=
  (receiveMetadata_eq steady comes version).1 refused

end TickWire.Session
