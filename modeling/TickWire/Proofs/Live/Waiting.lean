import TickWire.Proofs.Live.Requests
import TickWire.Proofs.Live.Session
import TickWire.Proofs.Live.Streaming
import TickWire.Proofs.Record.View

/-!
# Waiting over any link

How reading and waiting can end whatever a link does: however it divides the bytes, whether
it times out, fails or is closed, and whatever number of bytes it claims to give.  What
arrives is put behind what is unread, as far as there is room, and nothing else happens to
it.  The bytes that are unread and those that a link can still give bound how often a
session can wait.
-/

namespace TickWire

namespace Link

variable {link : Link} {room : Nat}

/-- How one read can end.  What it gives is paid for by what the link had to give. -/
inductive ReadEnd (link : Link) (room : Nat) : Except IoFailure ReadResult × Link → Prop where
  | closed {bytes : Bytes} {after : Link} (reads : link.Reads after)
      (covered : (bytes.take room).length + after.budget ≤ link.budget) :
      ReadEnd link room (.ok ⟨bytes, .closed⟩, after)
  | late {bytes : Bytes} {after : Link} (reads : link.Reads after)
      (fewer : (bytes.take room).length + after.budget < link.budget) :
      ReadEnd link room (.ok ⟨bytes, .timeout⟩, after)
  | arrived {bytes : Bytes} {after : Link} (reads : link.Reads after)
      (covered : (bytes.take room).length + after.budget ≤ link.budget)
      (fewer : after.budget < link.budget) : ReadEnd link room (.ok ⟨bytes, .ready⟩, after)
  | failed {failure : IoFailure} {after : Link} (reads : link.Reads after) :
      ReadEnd link room (.error failure, after)

/-- A read that gives nothing costs nothing. -/
theorem ReadEnd.nothing {after : Link} (reads : link.Reads after) :
    link.ReadEnd room (.ok ⟨[], .closed⟩, after) :=
  .closed reads (by rw [List.take_nil, List.length_nil, Nat.zero_add]; exact reads.budget_le)

theorem meet_end (positive : 0 < room) (link : Link) : link.ReadEnd room (link.meet room) := by
  have reads := link.reads_meet room
  cases events : link.events with
  | nil =>
      simp only [meet, events] at reads ⊢
      exact .nothing reads
  | cons event later =>
      have counts := link.budget_of_cons events
      cases event with
      | timeout =>
          have weight : LinkEvent.timeout.weight = 1 := rfl
          simp only [meet, events] at reads ⊢
          refine .late reads ?_
          rw [counts, weight, List.take_nil, List.length_nil]
          omega
      | closed | silence =>
          simp only [meet, events] at reads ⊢
          exact .nothing reads
      | failure reason =>
          simp only [meet, events] at reads ⊢
          exact .failed reads
      | answer result =>
          simp only [meet, events] at reads ⊢
          obtain ⟨bytes, status⟩ := result
          have weight : (LinkEvent.answer ⟨bytes, status⟩).weight = bytes.length + 1 := rfl
          have atMost := List.length_take_le' room bytes
          rw [weight] at counts
          cases status with
          | closed => exact .closed reads (by omega)
          | timeout => exact .late reads (by omega)
          | ready => exact .arrived reads (by omega) (by omega)
      | arrival bytes =>
          have weight : (LinkEvent.arrival bytes).weight = bytes.length + 1 := rfl
          rw [weight] at counts
          simp only [meet, events] at reads ⊢
          split at reads
          next fits =>
            rw [if_pos fits, List.take_of_length_le fits]
            exact .arrived reads (by rw [List.take_of_length_le fits]; omega) (by omega)
          next beyond =>
            -- What does not fit stays, and counts as much as before.
            have left :
                ({ link with events := .arrival (bytes.drop room) :: later } : Link).budget =
                  (bytes.length - room + 1) + ({ link with events := later } : Link).budget := by
              rw [budget_of_cons _ rfl, LinkEvent.weight, List.length_drop]
            rw [if_neg beyond]
            refine .arrived reads ?_ ?_
            · rw [left, counts, List.take_take, Nat.min_self, List.length_take]
              omega
            · rw [left, counts]
              omega

/-- A read that begins later ends like one that begins now. -/
theorem ReadEnd.of_reads {middle : Link} (reads : link.Reads middle)
    {outcome : Except IoFailure ReadResult × Link} (ended : middle.ReadEnd room outcome) :
    link.ReadEnd room outcome := by
  have budget := reads.budget_le
  cases ended with
  | closed readsMore covered => exact .closed (reads.trans readsMore) (by omega)
  | late readsMore fewer => exact .late (reads.trans readsMore) (by omega)
  | arrived readsMore covered fewer =>
      exact .arrived (reads.trans readsMore) (by omega) (by omega)
  | failed readsMore => exact .failed (reads.trans readsMore)

theorem read_end (positive : 0 < room) (link : Link) (timeout : Option Nat) :
    link.ReadEnd room (link.read room timeout) := by
  unfold read
  dsimp only
  split
  · exact .nothing link.reads_tick
  · exact .of_reads (link.reads_tick.trans (link.tick.reads_waits _)) (meet_end positive _)

end Link

namespace Session

variable {session : Session}

/-- What a session can still take: the bytes that are unread, and what its link can give. -/
def supply (session : Session) : Nat :=
  session.channel.link.budget + session.channel.buffer.unreadLength

/-- Bytes that arrive are put behind those that are unread, and others are taken from the
front of them. -/
structure Passed (before : Session) (arrived taken : Bytes) (after : Session) : Prop where
  queue_eq : before.channel.buffer.unread ++ arrived = taken ++ after.channel.buffer.unread
  link : before.channel.link.Reads after.channel.link
  capacity_eq : after.channel.buffer.capacity = before.channel.buffer.capacity
  supply_le : taken.length + after.supply ≤ before.supply
  frame : after =
    { before with channel := after.channel, upgradeBuffer := after.upgradeBuffer }

namespace Passed

variable {before middle after : Session} {first second takenFirst takenSecond : Bytes}

theorem refl (session : Session) : session.Passed [] [] session where
  queue_eq := List.append_nil _
  link := .refl _
  capacity_eq := rfl
  supply_le := Nat.le_of_eq (Nat.zero_add _)
  frame := rfl

theorem trans (one : before.Passed first takenFirst middle)
    (two : middle.Passed second takenSecond after) :
    before.Passed (first ++ second) (takenFirst ++ takenSecond) after where
  queue_eq := by
    rw [← List.append_assoc, one.queue_eq, List.append_assoc, two.queue_eq, List.append_assoc]
  link := one.link.trans two.link
  capacity_eq := two.capacity_eq.trans one.capacity_eq
  supply_le := by
    have supplyOne := one.supply_le
    have supplyTwo := two.supply_le
    rw [List.length_append]
    omega
  frame := by rw [two.frame, one.frame]

theorem state_eq (passed : before.Passed first takenFirst after) : after.state = before.state := by
  rw [passed.frame]

theorem resultOf_eq (passed : before.Passed first takenFirst after) :
    after.resultOf = before.resultOf := by
  rw [passed.frame]
  rfl

end Passed

/-- The connection is closed, which the error says of the side that closed it. -/
structure Ended (before : Session) (error : LiveError) (after : Session) : Prop where
  link : before.channel.link.Reads after.channel.link
  capacity_eq : after.channel.buffer.capacity = before.channel.buffer.capacity
  stopped : after.state = .stopped
  error_eq : error = if after.channel.link.isShutDown then .sessionClosed else .streamClosed

theorem Ended.of_passed {first middle after : Session} {error : LiveError}
    {arrived taken : Bytes} (passed : first.Passed arrived taken middle)
    (ended : middle.Ended error after) : first.Ended error after where
  link := passed.link.trans ended.link
  capacity_eq := ended.capacity_eq.trans passed.capacity_eq
  stopped := ended.stopped
  error_eq := ended.error_eq

theorem closed_end {α : Type} (session : Session) :
    ∃ error after, (closed : SessionStep α) session = (.error error, after) ∧
      session.Ended error after := by
  let after : Session := { session.halt with
    channel := ⟨session.channel.link.tick, session.halt.channel.buffer⟩ }
  have looked : onChannel Channel.checkShutDown session.halt =
      (.ok session.channel.link.tick.isShutDown, after) := rfl
  refine ⟨if session.channel.link.tick.isShutDown then .sessionClosed else .streamClosed,
    after, ?_, session.channel.link.reads_tick, rfl, rfl, rfl⟩
  rw [closed, bind_of_ok (modify_run _ _), bind_of_ok looked]
  cases session.channel.link.tick.isShutDown <;> rfl

theorem supply_eq (session : Session) :
    session.supply = session.channel.link.budget + session.channel.buffer.unread.length := by
  rw [supply, ByteBuffer.length_unread]

section Fill

variable {link : Link} (reads : session.channel.link.Reads link)

include reads

theorem passed_compact :
    session.Passed [] [] { session with channel := ⟨link, session.channel.buffer.compact⟩ } where
  queue_eq := by
    rw [List.append_nil, List.nil_append]
    exact session.channel.buffer.unread_compact.symm
  link := reads
  capacity_eq := session.channel.buffer.capacity_compact
  supply_le := by
    have budget := reads.budget_le
    simp only [supply_eq, session.channel.buffer.unread_compact, List.length_nil]
    omega
  frame := rfl

/-- Bytes that the link paid for are put behind those that are unread. -/
theorem onChannel_fill_ok {timeout : Option Nat} {result : ReadResult}
    (room : session.channel.buffer.compact.spareLength ≠ 0)
    (read : session.channel.link.read session.channel.buffer.compact.spareLength timeout =
      (.ok result, link))
    (covered : (result.bytes.take session.channel.buffer.compact.spareLength).length
      + link.budget ≤ session.channel.link.budget) :
    ∃ after, onChannel (Channel.fill timeout) session = (.ok result, after) ∧
      session.Passed (result.bytes.take session.channel.buffer.compact.spareLength) [] after ∧
      after.channel.link = link := by
  have ran : onChannel (Channel.fill timeout) session = (.ok result, { session with channel :=
      ⟨link, ((session.channel.buffer.compact.fill result.bytes).commit
        result.bytes.length).2⟩ }) := by
    simp only [onChannel, Channel.fill, if_neg room, read]
  have unread := session.channel.buffer.compact.unread_commit_fill_take result.bytes
  rw [session.channel.buffer.unread_compact] at unread
  refine ⟨_, ran, ?_, rfl⟩
  exact {
    queue_eq := unread.symm
    link := reads
    capacity_eq := session.channel.buffer.capacity_compact
    supply_le := by
      simp only [supply_eq, unread, List.length_append, List.length_nil]
      omega
    frame := rfl }

theorem onChannel_fill_error {timeout : Option Nat} {failure : IoFailure}
    (room : session.channel.buffer.compact.spareLength ≠ 0)
    (read : session.channel.link.read session.channel.buffer.compact.spareLength timeout =
      (.error failure, link)) :
    ∃ after, onChannel (Channel.fill timeout) session = (.error (.link failure .reading), after) ∧
      session.Passed [] [] after :=
  ⟨_, by simp only [onChannel, Channel.fill, if_neg room, read], passed_compact reads⟩

end Fill

/-- How one fill can end. -/
inductive FillEnd (session : Session) : Except LiveError Bool × Session → Prop where
  | ended {error : LiveError} {after : Session} (ended : session.Ended error after) :
      FillEnd session (.error error, after)
  | late {arrived : Bytes} {after : Session} (passed : session.Passed arrived [] after)
      (fewer : after.supply < session.supply) : FillEnd session (.ok false, after)
  | arrived {arrived : Bytes} {after : Session} (passed : session.Passed arrived [] after)
      (nearer : after.channel.link.budget < session.channel.link.budget) :
      FillEnd session (.ok true, after)
  | failed {failure : IoFailure} {after : Session} (passed : session.Passed [] [] after) :
      FillEnd session (.error (.link failure .reading), after)
  /-- Without room nothing can be read. -/
  | full {after : Session}
      (noRoom : session.channel.buffer.capacity ≤ session.channel.buffer.unread.length)
      (passed : session.Passed [] [] after) :
      FillEnd session (.error (.configuration (.bufferFull session.channel.buffer.capacity)), after)

theorem fill_end (session : Session) (timeout : Option Nat) :
    session.FillEnd (fill timeout session) := by
  rw [fill]
  by_cases noRoom : session.channel.buffer.compact.spareLength = 0
  · have refused : onChannel (Channel.fill timeout) session =
        (.error (.configuration (.bufferFull session.channel.buffer.capacity)),
          { session with channel := ⟨session.channel.link, session.channel.buffer.compact⟩ }) := by
      simp only [onChannel, Channel.fill, if_pos noRoom, ByteBuffer.capacity_compact]
    have spare := session.channel.buffer.spareLength_compact
    have unread := session.channel.buffer.length_unread
    rw [bind_of_error refused]
    exact .full (by omega) (passed_compact (.refl _))
  · have ended := Link.read_end (Nat.pos_of_ne_zero noRoom) session.channel.link timeout
    generalize read : session.channel.link.read
      session.channel.buffer.compact.spareLength timeout = outcome at ended
    cases ended with
    | closed reads covered =>
        obtain ⟨middle, ran, passed, -⟩ := onChannel_fill_ok reads noRoom read covered
        obtain ⟨error, after, closes, ended⟩ := closed_end (α := Bool) middle
        rw [bind_of_ok ran]
        dsimp only
        rw [closes]
        exact .ended (.of_passed passed ended)
    | late reads fewer =>
        obtain ⟨after, ran, passed, same⟩ :=
          onChannel_fill_ok reads noRoom read (Nat.le_of_lt fewer)
        have length := congrArg List.length passed.queue_eq
        simp only [List.length_append, List.nil_append] at length
        rw [bind_of_ok ran]
        refine .late passed ?_
        rw [supply_eq, supply_eq, same]
        omega
    | arrived reads covered nearer =>
        obtain ⟨after, ran, passed, same⟩ := onChannel_fill_ok reads noRoom read covered
        rw [bind_of_ok ran]
        exact .arrived passed (same.symm ▸ nearer)
    | failed reads =>
        obtain ⟨after, ran, passed⟩ := onChannel_fill_error reads noRoom read
        rw [bind_of_error ran]
        exact .failed passed

/-! ## Waiting for bytes -/

/-- Why waiting fails while the connection is open: the link fails, or the buffer is smaller
than a record may be. -/
inductive WaitFault (capacity : Nat) : LiveError → Prop where
  | link {failure : IoFailure} : WaitFault capacity (.link failure .reading)
  | full (narrow : capacity < frameMaximumSize) :
      WaitFault capacity (.configuration (.bufferFull capacity))
  | beyond {size : Nat} (narrow : capacity < frameMaximumSize) :
      WaitFault capacity (.configuration (.recordBeyondBuffer size capacity))

/-- How waiting for `count` unread bytes can end over any link. -/
inductive AwaitEnd (session : Session) (count : Nat) :
    Except LiveError Bool × Session → Prop where
  | ended {error : LiveError} {after : Session} (ended : session.Ended error after) :
      AwaitEnd session count (.error error, after)
  | late {arrived : Bytes} {after : Session} (passed : session.Passed arrived [] after)
      (fewer : after.supply < session.supply) : AwaitEnd session count (.ok false, after)
  | whole {arrived : Bytes} {after : Session} (passed : session.Passed arrived [] after)
      (enough : count ≤ after.channel.buffer.unread.length) :
      AwaitEnd session count (.ok true, after)
  | failed {arrived : Bytes} {error : LiveError} {after : Session}
      (passed : session.Passed arrived [] after)
      (fault : WaitFault session.channel.buffer.capacity error) :
      AwaitEnd session count (.error error, after)

/-- Waiting that goes on ends like waiting. -/
theorem AwaitEnd.of_passed {middle : Session} {count : Nat} {arrived : Bytes}
    (passed : session.Passed arrived [] middle) {outcome : Except LiveError Bool × Session}
    (ended : middle.AwaitEnd count outcome) : session.AwaitEnd count outcome := by
  have supply := passed.supply_le
  cases ended with
  | ended ended => exact .ended (.of_passed passed ended)
  | late passedMore fewer =>
      exact .late (passed.trans passedMore) (Nat.lt_of_lt_of_le fewer (by simpa using supply))
  | whole passedMore enough => exact .whole (passed.trans passedMore) enough
  | failed passedMore fault => exact .failed (passed.trans passedMore) (passed.capacity_eq ▸ fault)

/-- The budget of the link bounds the reads, so waiting is never given up. -/
theorem awaitWithin_end {count bound : Nat} (small : count ≤ frameMaximumSize)
    (enough : session.channel.link.budget < bound) (timeout : Option Nat) :
    session.AwaitEnd count (awaitWithin count timeout bound session) := by
  induction bound generalizing session with
  | zero => contradiction
  | succ bound ih =>
      rw [awaitWithin, bind_of_ok (unread_run _)]
      split
      next whole => exact .whole (.refl session) whole
      next missing =>
        generalize given : fill timeout session = outcome
        cases given ▸ session.fill_end timeout with
        | ended ended =>
            rw [bind_of_error given]
            exact .ended ended
        | late passed fewer =>
            rw [bind_of_ok given]
            exact .late passed fewer
        | arrived passed nearer =>
            rw [bind_of_ok given]
            exact .of_passed passed (ih (by omega))
        | failed passed =>
            rw [bind_of_error given]
            exact .failed passed .link
        | full noRoom passed =>
            rw [bind_of_error given]
            exact .failed passed (.full (by omega))

theorem await_end (session : Session) (count : Nat) (small : count ≤ frameMaximumSize)
    (timeout : Option Nat) :
    session.AwaitEnd count (await count timeout session) := by
  rw [await, bind_of_ok (budget_run _)]
  exact awaitWithin_end small (Nat.lt_succ_self _) timeout

/-! ## Reading a record -/

/-- How reading a record can end. -/
inductive RecordEnd (session : Session) : Except LiveError (Option Frame) × Session → Prop where
  | ended {error : LiveError} {after : Session} (ended : session.Ended error after) :
      RecordEnd session (.error error, after)
  | late {arrived : Bytes} {after : Session} (passed : session.Passed arrived [] after)
      (fewer : after.supply < session.supply) : RecordEnd session (.ok none, after)
  | failed {arrived : Bytes} {error : LiveError} {after : Session}
      (passed : session.Passed arrived [] after)
      (fault : WaitFault session.channel.buffer.capacity error) :
      RecordEnd session (.error error, after)
  /-- The first byte announces less than a header; nothing is taken. -/
  | short {arrived rest : Bytes} {byte : UInt8} {after : Session}
      (passed : session.Passed arrived [] after)
      (begins : after.channel.buffer.unread = byte :: rest)
      (below : Header.sizeOfLength byte < headerSize) :
      RecordEnd session
        (.error (.format (.invalidLength (.recordBelowHeader (Header.sizeOfLength byte)))), after)
  | taken {arrived : Bytes} {frame : Frame} {after : Session}
      (passed : session.Passed arrived frame.bytes after) :
      RecordEnd session (session.resultOf frame, after)

theorem RecordEnd.of_passed {middle : Session} {arrived : Bytes}
    (passed : session.Passed arrived [] middle)
    {outcome : Except LiveError (Option Frame) × Session} (ended : middle.RecordEnd outcome) :
    session.RecordEnd outcome := by
  have supply := passed.supply_le
  cases ended with
  | ended ended => exact .ended (.of_passed passed ended)
  | late passedMore fewer =>
      exact .late (passed.trans passedMore) (Nat.lt_of_lt_of_le fewer (by simpa using supply))
  | failed passedMore fault => exact .failed (passed.trans passedMore) (passed.capacity_eq ▸ fault)
  | short passedMore begins below => exact .short (passed.trans passedMore) begins below
  | taken passedMore =>
      rw [passed.resultOf_eq]
      exact .taken (passed.trans passedMore)

/-- Unread bytes that begin with a whole frame give it. -/
theorem takeFrame_end (session : Session) {size : Nat}
    (announced : size = Header.sizeOfLength (session.channel.buffer.unread.headD 0))
    (header : headerSize ≤ size) (enough : size ≤ session.channel.buffer.unread.length) :
    ∃ frame : Frame, ∃ after, frame.bytes = session.channel.buffer.unread.take size ∧
      (do return some (← takeFrame size) : SessionStep (Option Frame)) session =
        (session.resultOf frame, after) ∧
      session.Passed [] frame.bytes after := by
  have framed : Frame.IsFramed 0 session.channel.buffer.unread :=
    ⟨Nat.le_trans header enough, rfl, announced ▸ header, announced ▸ enough⟩
  obtain ⟨frame, found⟩ := (Frame.exists_ofBytes_iff 0 _).mpr framed
  have front : frame.bytes = session.channel.buffer.unread.take size :=
    announced ▸ (Frame.isFramed_of_ofBytes found).2
  have length : frame.bytes.length = size := by
    rw [front, List.length_take, Nat.min_eq_left enough]
  have split : session.channel.buffer.unread =
      frame.bytes ++ session.channel.buffer.unread.drop size := by
    rw [front, List.take_append_drop]
  have rest : ((Channel.realign session.channel.buffer).advance size).2.unread =
      session.channel.buffer.unread.drop size := by
    rw [ByteBuffer.unread_advance, Channel.unread_realign]
  obtain ⟨upgradeBuffer, taken⟩ := takeFrame_eq split
  rw [length] at taken
  refine ⟨frame, _, front, map_run taken some, ?_⟩
  exact {
    queue_eq := by
      rw [List.append_nil]
      exact split.trans (congrArg (frame.bytes ++ ·) rest.symm)
    link := .refl _
    capacity_eq := Channel.capacity_realign _
    supply_le := by
      simp only [supply_eq, rest, length, List.length_drop]
      omega
    frame := rfl }

theorem sizeOfLength_le (byte : UInt8) : Header.sizeOfLength byte ≤ frameMaximumSize := by
  have bound := byte.toNat_lt
  rw [Header.sizeOfLength, frameMaximumSize]
  omega

/-- Where the first byte has arrived, the rest of the frame is waited for. -/
theorem takeFrame_end_of_await (timeout : Option Nat) {byte : UInt8} {rest : Bytes}
    (begins : session.channel.buffer.unread = byte :: rest)
    (header : headerSize ≤ Header.sizeOfLength byte) :
    session.RecordEnd ((do
      if !(← await (Header.sizeOfLength byte) timeout) then return none
      return some (← takeFrame (Header.sizeOfLength byte)) :
        SessionStep (Option Frame)) session) := by
  generalize awaited : await (Header.sizeOfLength byte) timeout session = outcome
  cases awaited ▸ session.await_end _ (sizeOfLength_le byte) timeout with
  | ended ended =>
      rw [bind_of_error awaited]
      exact .ended ended
  | failed passed fault =>
      rw [bind_of_error awaited]
      exact .failed passed fault
  | late passed fewer =>
      rw [bind_of_ok awaited]
      exact .late passed fewer
  | @whole arrived whole passed enough =>
      rw [bind_of_true awaited]
      have beginsWhole : whole.channel.buffer.unread.headD 0 = byte := by
        have queue := passed.queue_eq
        rw [begins, List.nil_append] at queue
        rw [← queue]
        rfl
      obtain ⟨frame, after, -, ran, passedFrame⟩ :=
        whole.takeFrame_end (beginsWhole ▸ rfl) header enough
      rw [ran]
      exact .of_passed passed (.taken passedFrame)

/-- Reading begins with the first byte, which says how much is waited for. -/
theorem nextRecord_end_of_require {looked : Session}
    (required : require .nextRecord [.streaming] session = (.ok (), looked))
    (timeout : Option Nat) : looked.RecordEnd (nextRecord timeout session) := by
  rw [nextRecord, bind_of_ok required]
  generalize awaited : await 1 timeout looked = outcome
  cases awaited ▸ looked.await_end 1 (by decide) timeout with
  | ended ended =>
      rw [bind_of_error awaited]
      exact .ended ended
  | failed passed fault =>
      rw [bind_of_error awaited]
      exact .failed passed fault
  | late passed fewer =>
      rw [bind_of_ok awaited]
      exact .late passed fewer
  | @whole arrived first passed enough =>
      rw [bind_of_true awaited, bind_of_ok (unread_run _)]
      obtain ⟨byte, rest, begins⟩ := List.exists_cons_of_length_pos enough
      refine .of_passed passed ?_
      simp only [begins, List.headD_cons]
      split
      next below =>
        rw [bind_of_error (throw_run _ _)]
        exact .short (.refl first) begins below
      next header =>
      rw [bind_of_ok (get_run _)]
      split
      next narrow =>
        rw [bind_of_error (throw_run _ _)]
        exact .failed (.refl first) (.beyond (Nat.lt_of_lt_of_le narrow (sizeOfLength_le byte)))
      next => exact takeFrame_end_of_await timeout begins (Nat.le_of_not_lt header)

/-- How a call for the next record can end. -/
inductive NextEnd (session : Session) : Except LiveError (Option Frame) × Session → Prop where
  | stopped (ended : session.looked.state = .stopped) :
      NextEnd session (.error .sessionClosed, session.looked)
  | refused (running : session.looked.state ≠ .stopped)
      (unfit : session.looked.state ≠ .streaming) :
      NextEnd session (.error (.invalidState .nextRecord session.looked.state), session.looked)
  | read (streaming : session.looked.state = .streaming)
      {outcome : Except LiveError (Option Frame) × Session}
      (ended : session.looked.RecordEnd outcome) : NextEnd session outcome

theorem nextRecord_end (session : Session) (timeout : Option Nat) :
    session.NextEnd (nextRecord timeout session) := by
  have required := session.require_eq .nextRecord [.streaming]
  by_cases ended : session.looked.state = .stopped
  · rw [if_pos ended] at required
    rw [nextRecord, bind_of_error required]
    exact .stopped ended
  rw [if_neg ended] at required
  by_cases streaming : session.looked.state = .streaming
  · rw [if_neg (by simp [streaming])] at required
    exact .read streaming (nextRecord_end_of_require required timeout)
  · rw [if_pos (by simpa using streaming)] at required
    rw [nextRecord, bind_of_error required]
    exact .refused ended streaming

/-- Looking at the link takes nothing. -/
theorem supply_looked (session : Session) : session.looked.supply = session.supply := by
  have budget := Link.budget_eq_of_events session.channel.link.sameTraffic_tick.events_eq
  rw [supply, supply]
  exact congrArg (· + session.channel.buffer.unreadLength) budget

end Session

end TickWire
