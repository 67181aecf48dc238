import TickWire.Proofs.Live.Requests
import TickWire.Proofs.Live.Streaming

/-!
# Interruption

A gateway that neither closes the connection nor lets it fail sends bytes and then nothing,
until the link is shut down from outside, which may happen between any two steps of a
session.  Until then every step does what it does over a link that nobody shuts down and on
which more bytes arrive in place of the silence.  A step that meets the shutdown ends the
session.
-/

namespace TickWire

namespace Link

variable {link : Link}

/-- A link over which bytes arrive and reads may time out, and then nothing happens until it
is shut down from outside. -/
structure IsEndless (link : Link) : Prop where
  isOpen : link.isShutDown = false
  silent : ∃ events, link.events = events ++ [.silence] ∧ ∀ event ∈ events, event.isCalm = true

/-- A link that nobody shuts down, and on which bytes arrive in place of the silence. -/
def calmed (more : Bytes) (link : Link) : Link :=
  { link with events := link.events.dropLast ++ [.arrival more], stopAfter? := none }

/-- How a read of an endless link compares with that of the calmed one. -/
inductive ReadAgrees (more : Bytes) :
    Except IoFailure ReadResult × Link → Except IoFailure ReadResult × Link → Prop where
  /-- The link is shut down before anything is read. -/
  | interrupted {after : Link} {other : Except IoFailure ReadResult × Link}
      (shut : after.isShutDown = true) : ReadAgrees more (.ok ⟨[], .closed⟩, after) other
  | same {result : ReadResult} {after : Link} (endless : after.IsEndless)
      (isOpen : result.status ≠ .closed) :
      ReadAgrees more (.ok result, after) (.ok result, after.calmed more)

/-- How an exact read of an endless link compares with that of the calmed one. -/
inductive ReadExactAgrees (more : Bytes) :
    Except IoFailure Bytes × Link → Except IoFailure Bytes × Link → Prop where
  | interrupted {after : Link} {other : Except IoFailure Bytes × Link}
      (shut : after.isShutDown = true) :
      ReadExactAgrees more (.error .unexpectedEnd, after) other
  | same {bytes : Bytes} {after : Link} (endless : after.IsEndless) :
      ReadExactAgrees more (.ok bytes, after) (.ok bytes, after.calmed more)

theorem budget_eq_sum (link : Link) :
    link.budget = (link.events.map LinkEvent.weight).sum + 1 := by
  simp [budget, List.sum, List.foldr_map]

namespace IsEndless

theorem of_events (isOpen : link.isShutDown = false) {left : List LinkEvent}
    (calm : ∀ event ∈ left, event.isCalm = true) :
    ({ link with events := left ++ [.silence] } : Link).IsEndless :=
  ⟨isOpen, left, rfl, calm⟩

section Calmed

variable (endless : link.IsEndless) (more : Bytes)

include endless

theorem steady_calmed : (link.calmed more).IsSteady := by
  obtain ⟨events, split, calm⟩ := endless.silent
  constructor
  · exact endless.isOpen
  · rfl
  · intro event member
    rw [calmed, split, List.dropLast_concat] at member
    cases List.mem_append.mp member with
    | inl earlier => exact calm event earlier
    | inr last =>
        rw [List.mem_singleton.mp last]
        rfl

theorem pending_calmed : (link.calmed more).pending = link.pending ++ more := by
  obtain ⟨events, split, -⟩ := endless.silent
  simp [calmed, pending, split, LinkEvent.bytes]

theorem timeouts_calmed : (link.calmed more).timeouts = link.timeouts := by
  obtain ⟨events, split, -⟩ := endless.silent
  simp [calmed, timeouts, split]

theorem budget_calmed : (link.calmed more).budget = link.budget + more.length := by
  obtain ⟨events, split, -⟩ := endless.silent
  simp [budget_eq_sum, calmed, split, LinkEvent.weight]
  omega

/-- Unless the link is shut down just then, a step that passes changes nothing. -/
theorem tick_later (later : link.stopAfter? ≠ some 0) :
    link.tick.IsEndless ∧ link.tick.calmed more = link.calmed more := by
  unfold tick
  split
  · exact ⟨endless, rfl⟩
  next now => exact absurd now later
  · exact ⟨⟨endless.isOpen, endless.silent⟩, rfl⟩

theorem tick_cases :
    link.tick.isShutDown = true ∨
      link.tick.IsEndless ∧ link.tick.calmed more = link.calmed more := by
  by_cases now : link.stopAfter? = some 0
  · left
    rw [tick, now]
    exact link.isShutDown_stopFromOutside
  · exact .inr (endless.tick_later more now)

/-- Meeting the silence takes as long as it takes until the link is shut down. -/
theorem meet_agrees (room : Nat) :
    ReadAgrees more (link.meet room) ((link.calmed more).meet room) := by
  obtain ⟨events, split, calm⟩ := endless.silent
  cases events with
  | nil =>
      simp only [meet, split, List.nil_append]
      exact .interrupted (isShutDown_stopFromOutside _)
  | cons event later =>
      have goesOn {left : List LinkEvent} (calmLeft : ∀ event ∈ left, event.isCalm = true)
          {result : ReadResult} (isOpen : result.status ≠ .closed) :
          ReadAgrees more (.ok result, { link with events := left ++ [.silence] })
            (.ok result, { link.calmed more with events := left ++ [.arrival more] }) := by
        have read := @ReadAgrees.same more _ _ (of_events endless.isOpen calmLeft) isOpen
        rw [calmed, List.dropLast_concat] at read
        exact read
      rw [List.forall_mem_cons] at calm
      have splitCalmed : (link.calmed more).events = event :: (later ++ [.arrival more]) := by
        rw [calmed, split, List.dropLast_concat]
        rfl
      rw [List.cons_append] at split
      cases event with
      | timeout =>
          simp only [meet, split, splitCalmed]
          exact goesOn calm.2 (by simp)
      | arrival bytes =>
          simp only [meet, split, splitCalmed]
          by_cases fits : bytes.length ≤ room
          · simp only [if_pos fits]
            exact goesOn calm.2 (by simp)
          · simp only [if_neg fits]
            exact goesOn (List.forall_mem_cons.mpr ⟨rfl, calm.2⟩) (by simp)
      | closed | silence | failure _ | answer _ => cases calm.1

theorem read_agrees (room : Nat) (timeout : Option Nat) :
    ReadAgrees more (link.read room timeout) ((link.calmed more).read room timeout) := by
  rw [(endless.steady_calmed more).read_eq, read]
  cases endless.tick_cases more with
  | inl shut =>
      simp only [shut, if_true]
      exact .interrupted shut
  | inr passed =>
      obtain ⟨endlessTick, same⟩ := passed
      have isOpen : ¬link.tick.isShutDown = true := by simp [endlessTick.isOpen]
      have waiting : { link.tick with waits := link.tick.waits ++ [timeout] }.IsEndless :=
        ⟨endlessTick.isOpen, endlessTick.silent⟩
      simp only [if_neg isOpen, ← same]
      exact waiting.meet_agrees more room

end Calmed

/-- Every read that is not interrupted brings the silence nearer. -/
theorem budget_lt_of_read (endless : link.IsEndless) {more : Bytes} {room : Nat}
    (positive : 0 < room) {timeout : Option Nat} {result : ReadResult} {after : Link}
    (read : (link.calmed more).read room timeout = (.ok result, after.calmed more))
    (isOpen : result.status ≠ .closed) (endlessAfter : after.IsEndless) :
    after.budget < link.budget := by
  have nearer : (after.calmed more).budget < (link.calmed more).budget := by
    cases read ▸ read_outcome (endless.steady_calmed more) positive timeout with
    | ended => exact absurd rfl isOpen
    | late gave timeouts budget => exact budget
    | arrived fits gave budget => exact budget
  rw [endless.budget_calmed, endlessAfter.budget_calmed] at nearer
  exact Nat.lt_of_add_lt_add_right nearer

/-- An exact read goes on over timeouts until enough has arrived or the link is shut down. -/
theorem readExactWithin_agrees (endless : link.IsEndless) (more : Bytes) {bound want : Nat}
    (enough : link.budget ≤ bound) :
    ReadExactAgrees more (readExactWithin bound want link)
      (readExactWithin (bound + more.length) want (link.calmed more)) := by
  induction bound generalizing want link with
  | zero => simp [budget] at enough
  | succ bound ih =>
      rw [Nat.succ_add]
      cases want with
      | zero => exact .same endless
      | succ want =>
          rw [readExactWithin, readExactWithin]
          generalize read : link.read (want + 1) none = outcome
          generalize readCalmed : (link.calmed more).read (want + 1) none = outcomeCalmed
          cases read ▸ readCalmed ▸ endless.read_agrees more (want + 1) none with
          | interrupted shut => exact .interrupted shut
          | @same result after endlessAfter isOpen =>
              have nearer := endless.budget_lt_of_read (Nat.succ_pos want) readCalmed isOpen
                endlessAfter
              have enoughAfter : after.budget ≤ bound := by omega
              obtain ⟨bytes, status⟩ := result
              cases status with
              | closed => exact absurd rfl isOpen
              | timeout => exact ih endlessAfter enoughAfter
              | ready =>
                  have rest := @ih after endlessAfter (want + 1 - bytes.length) enoughAfter
                  dsimp only
                  generalize readExactWithin bound (want + 1 - bytes.length) after = outcome
                    at rest
                  generalize readExactWithin (bound + more.length) (want + 1 - bytes.length)
                    (after.calmed more) = outcomeCalmed at rest
                  cases rest with
                  | interrupted shut => exact .interrupted shut
                  | same endlessLast => exact .same endlessLast

theorem readExact_agrees (endless : link.IsEndless) (more : Bytes) (want : Nat) :
    ReadExactAgrees more (link.readExact want) ((link.calmed more).readExact want) := by
  rw [readExact, readExact, endless.budget_calmed]
  exact endless.readExactWithin_agrees more (Nat.le_refl _)

end IsEndless

end Link

namespace Session

variable {session : Session} {α β : Type}

/-- A session over the calmed link. -/
def calmed (more : Bytes) (session : Session) : Session :=
  { session with channel := { session.channel with link := session.channel.link.calmed more } }

/-- How a step of a session over an endless link compares with one over the calmed link. -/
inductive Agrees (more : Bytes) :
    Except LiveError α × Session → Except LiveError α × Session → Prop where
  /-- The link is shut down, and the session knows it. -/
  | interrupted {after : Session} {other : Except LiveError α × Session}
      (stopped : after.state = .stopped) : Agrees more (.error .sessionClosed, after) other
  | same {result : Except LiveError α} {after : Session}
      (endless : after.channel.link.IsEndless) (goesOn : result ≠ .error .streamClosed) :
      Agrees more (result, after) (result, after.calmed more)

theorem incoming_calmed (endless : session.channel.link.IsEndless) (more : Bytes) :
    (session.calmed more).channel.incoming = session.channel.incoming ++ more := by
  rw [Channel.incoming, Channel.incoming, List.append_assoc, ← endless.pending_calmed more]
  rfl

theorem budget_calmed (endless : session.channel.link.IsEndless) (more : Bytes) :
    (session.calmed more).channel.link.budget + 1 =
      session.channel.link.budget + 1 + more.length := by
  rw [calmed, endless.budget_calmed, Nat.add_right_comm]

/-- Steps that agree are followed by steps that agree, or by none. -/
theorem Agrees.bind {more : Bytes} {step stepCalmed : SessionStep α}
    {next nextCalmed : α → SessionStep β}
    (one : Agrees more (step session) (stepCalmed (session.calmed more)))
    (two : ∀ value after, after.channel.link.IsEndless →
      stepCalmed (session.calmed more) = (.ok value, after.calmed more) →
      Agrees more (next value after) (nextCalmed value (after.calmed more))) :
    Agrees more ((step >>= next) session) ((stepCalmed >>= nextCalmed) (session.calmed more)) := by
  generalize ran : step session = outcome at one
  generalize ranCalmed : stepCalmed (session.calmed more) = outcomeCalmed at one two
  cases one with
  | interrupted stopped =>
      rw [bind_of_error ran]
      exact .interrupted stopped
  | @same result after endless goesOn =>
      cases result with
      | error error =>
          rw [bind_of_error ran, bind_of_error ranCalmed]
          exact .same endless fun same => goesOn (congrArg Except.error (Except.error.inj same))
      | ok value =>
          rw [bind_of_ok ran, bind_of_ok ranCalmed]
          exact two value after endless rfl

/-- A session that finds its link shut down ends. -/
theorem closed_of_shut (shut : session.channel.link.isShutDown = true) :
    ∃ after, (closed : SessionStep α) session = (.error .sessionClosed, after) ∧
      after.state = .stopped := by
  have still := session.channel.link.ages_tick.shutDown shut
  let after : Session := { session.halt with
    channel := ⟨session.channel.link.tick, session.halt.channel.buffer⟩ }
  have looked : onChannel Channel.checkShutDown session.halt = (.ok true, after) := by
    rw [← still]
    rfl
  refine ⟨after, ?_, rfl⟩
  rw [closed, bind_of_ok (modify_run _ _), bind_of_ok looked]
  rfl

/-- An operation that is allowed goes on where the link is open. -/
theorem require_open (isOpen : session.channel.link.tick.isShutDown = false)
    (operation : Operation) {allowed : List SessionState} (isAllowed : session.state ∈ allowed)
    (running : session.state ≠ .stopped) :
    require operation allowed session = (.ok (), session.looked) := by
  have stays : session.looked.state = session.state := if_neg (ne_true_of_eq_false isOpen)
  rw [require_eq, stays, if_neg running, if_neg (not_not_intro isAllowed)]

/-- No operation goes on where the link is shut down. -/
theorem require_shut (shut : session.channel.link.tick.isShutDown = true)
    (operation : Operation) (allowed : List SessionState) :
    require operation allowed session = (.error .sessionClosed, session.looked) ∧
      session.looked.state = .stopped := by
  have stopped : session.looked.state = .stopped := if_pos shut
  rw [require_eq, if_pos stopped]
  exact ⟨rfl, stopped⟩

theorem calmed_looked (endlessTick : session.channel.link.tick.IsEndless) {more : Bytes}
    (same : session.channel.link.tick.calmed more = session.channel.link.calmed more) :
    session.looked.calmed more = session.calmed more := by
  have isOpen : ¬session.channel.link.tick.isShutDown = true :=
    ne_true_of_eq_false endlessTick.isOpen
  simp only [looked, calmed, same, if_neg isOpen]

theorem require_agrees (endless : session.channel.link.IsEndless) (more : Bytes)
    (operation : Operation) {allowed : List SessionState} (isAllowed : session.state ∈ allowed)
    (running : session.state ≠ .stopped) :
    Agrees more (require operation allowed session)
      (require operation allowed (session.calmed more)) := by
  cases endless.tick_cases more with
  | inl shut =>
      obtain ⟨refused, stopped⟩ := require_shut shut operation allowed
      rw [refused]
      exact .interrupted stopped
  | inr passed =>
      obtain ⟨endlessTick, same⟩ := passed
      rw [require_open endlessTick.isOpen operation isAllowed running,
        @require_run (session.calmed more) (endless.steady_calmed more) operation allowed
          isAllowed running, ← calmed_looked endlessTick same]
      exact .same endlessTick (by simp)

theorem fill_agrees (endless : session.channel.link.IsEndless) (more : Bytes)
    (room : session.channel.buffer.unread.length < session.channel.buffer.capacity)
    (timeout : Option Nat) :
    Agrees more (fill timeout session) (fill timeout (session.calmed more)) := by
  have spare : session.channel.buffer.compact.spareLength ≠ 0 := by
    rw [ByteBuffer.length_unread] at room
    rw [ByteBuffer.spareLength_compact]
    omega
  have filled {channel : Channel} (same : channel.buffer = session.channel.buffer)
      {result : ReadResult} {link : Link}
      (read : channel.link.read session.channel.buffer.compact.spareLength timeout =
        (.ok result, link)) :
      Channel.fill timeout channel = (.ok result,
        ⟨link, ((session.channel.buffer.compact.fill result.bytes).commit
          result.bytes.length).2⟩) := by
    simp only [Channel.fill, same, if_neg spare, read]
  generalize read : session.channel.link.read session.channel.buffer.compact.spareLength timeout
    = outcome
  generalize readCalmed : (session.channel.link.calmed more).read
    session.channel.buffer.compact.spareLength timeout = outcomeCalmed
  rw [fill]
  cases read ▸ readCalmed ▸
    endless.read_agrees more session.channel.buffer.compact.spareLength timeout with
  | @interrupted link _ shut =>
      rw [bind_of_ok (onChannel_run (filled rfl read))]
      obtain ⟨after, ended, stopped⟩ :=
        @closed_of_shut { session with channel := ⟨link, _⟩ } Bool shut
      dsimp only
      rw [ended]
      exact .interrupted stopped
  | @same result link endlessAfter isOpen =>
      have filledCalmed := @filled (session.calmed more).channel rfl _ _ readCalmed
      rw [bind_of_ok (onChannel_run (filled rfl read)), bind_of_ok (onChannel_run filledCalmed)]
      obtain ⟨bytes, status⟩ := result
      cases status with
      | closed => exact absurd rfl isOpen
      | timeout => exact .same endlessAfter (by simp)
      | ready => exact .same endlessAfter (by simp)

/-- Every fill that is not interrupted brings the silence nearer. -/
theorem filled_of_agrees (endless : session.channel.link.IsEndless) {more : Bytes}
    (room : session.channel.buffer.unread.length < session.channel.buffer.capacity)
    {timeout : Option Nat} {arrived : Bool} {after : Session}
    (filled : fill timeout (session.calmed more) = (.ok arrived, after.calmed more))
    (endlessAfter : after.channel.link.IsEndless) :
    after.channel.link.budget < session.channel.link.budget ∧
      after.channel.buffer.capacity = session.channel.buffer.capacity := by
  have nearer : (after.calmed more).channel.link.budget <
        (session.calmed more).channel.link.budget ∧
      (session.calmed more).Took [] (after.calmed more) := by
    have outcome := @fill_outcome (session.calmed more) (endless.steady_calmed more) room timeout
    cases filled ▸ outcome with
    | late took timeouts budget => exact ⟨budget, took⟩
    | arrived took budget => exact ⟨budget, took⟩
  obtain ⟨budget, took⟩ := nearer
  change (after.channel.link.calmed more).budget < (session.channel.link.calmed more).budget
    at budget
  rw [endless.budget_calmed, endlessAfter.budget_calmed] at budget
  exact ⟨Nat.lt_of_add_lt_add_right budget, took.channel.capacity_eq⟩

/-- The calmed link takes more reads to come to its end, by the bytes that it brings. -/
theorem awaitWithin_agrees (endless : session.channel.link.IsEndless) (more : Bytes)
    {count bound : Nat} (enough : session.channel.link.budget < bound)
    (fits : count ≤ session.channel.buffer.capacity) (timeout : Option Nat) :
    Agrees more (awaitWithin count timeout bound session)
      (awaitWithin count timeout (bound + more.length) (session.calmed more)) := by
  induction bound generalizing session with
  | zero => contradiction
  | succ bound ih =>
      rw [Nat.succ_add, awaitWithin, awaitWithin, bind_of_ok (unread_run session),
        bind_of_ok (unread_run (session.calmed more))]
      have unread : (session.calmed more).channel.buffer.unread =
          session.channel.buffer.unread := rfl
      rw [unread]
      by_cases whole : count ≤ session.channel.buffer.unread.length
      · rw [if_pos whole, if_pos whole]
        exact .same endless (by simp)
      · rw [if_neg whole, if_neg whole]
        have room : session.channel.buffer.unread.length < session.channel.buffer.capacity :=
          Nat.lt_of_lt_of_le (Nat.lt_of_not_le whole) fits
        apply (fill_agrees endless more room timeout).bind
        intro arrived after endlessAfter filled
        obtain ⟨nearer, capacity⟩ := filled_of_agrees endless room filled endlessAfter
        cases arrived with
        | false => exact .same endlessAfter (by simp)
        | true => exact ih endlessAfter (by omega) (capacity ▸ fits)

theorem await_agrees (endless : session.channel.link.IsEndless) (more : Bytes) {count : Nat}
    (fits : count ≤ session.channel.buffer.capacity) (timeout : Option Nat) :
    Agrees more (await count timeout session) (await count timeout (session.calmed more)) := by
  rw [await, bind_of_ok (budget_run session), bind_of_ok (budget_run (session.calmed more)),
    budget_calmed endless]
  exact awaitWithin_agrees endless more (Nat.lt_succ_self _) fits timeout

theorem awaitAllWithin_agrees (endless : session.channel.link.IsEndless) (more : Bytes)
    {count bound : Nat} (enough : session.channel.link.budget < bound)
    (fits : count ≤ session.channel.buffer.capacity) :
    Agrees more (awaitAllWithin count bound session)
      (awaitAllWithin count (bound + more.length) (session.calmed more)) := by
  induction bound generalizing session with
  | zero => contradiction
  | succ bound ih =>
      rw [Nat.succ_add, awaitAllWithin, awaitAllWithin, bind_of_ok (unread_run session),
        bind_of_ok (unread_run (session.calmed more))]
      have unread : (session.calmed more).channel.buffer.unread =
          session.channel.buffer.unread := rfl
      rw [unread]
      by_cases whole : count ≤ session.channel.buffer.unread.length
      · rw [if_pos whole, if_pos whole]
        exact .same endless (by simp)
      · rw [if_neg whole, if_neg whole]
        have room : session.channel.buffer.unread.length < session.channel.buffer.capacity :=
          Nat.lt_of_lt_of_le (Nat.lt_of_not_le whole) fits
        apply (fill_agrees endless more room none).bind
        intro arrived after endlessAfter filled
        obtain ⟨nearer, capacity⟩ := filled_of_agrees endless room filled endlessAfter
        exact ih endlessAfter (by omega) (capacity ▸ fits)

theorem receive_agrees (endless : session.channel.link.IsEndless) (more : Bytes) {count : Nat}
    (fits : count ≤ session.channel.buffer.capacity) :
    Agrees more (receive count session) (receive count (session.calmed more)) := by
  rw [receive, bind_of_ok (budget_run session), bind_of_ok (budget_run (session.calmed more)),
    budget_calmed endless]
  apply (awaitAllWithin_agrees endless more (Nat.lt_succ_self _) fits).bind
  intro _ after endlessAfter _
  exact .same endlessAfter (by simp)

theorem decoded_agrees (endless : session.channel.link.IsEndless) (more : Bytes)
    (result : Except Error α) :
    Agrees more (decoded result session) (decoded result (session.calmed more)) := by
  cases result with
  | error error => exact .same endless (by simp)
  | ok value => exact .same endless (by simp)

theorem consume_agrees (endless : session.channel.link.IsEndless) (more : Bytes) (count : Nat) :
    Agrees more (consume count session) (consume count (session.calmed more)) :=
  .same endless (by simp)

/-- What is received past the buffer once it is read. -/
theorem receivePastBuffer_eq {count : Nat} {result : Except IoFailure Bytes} {link : Link} :
    session.channel.link.readExact (count - session.channel.buffer.unread.length) =
      (result, link) → receivePastBuffer count session =
      (match result with
        | .ok back => return session.channel.buffer.unread ++ back
        | .error .unexpectedEnd => closed
        | .error failure => throw (.link failure .readingMetadata) : SessionStep Bytes)
        { session with channel := { session.channel.clear with link } } := by
  intro read
  have readCleared : session.channel.clear.link.readExact
      (count - session.channel.buffer.unread.length) = (result, link) := read
  rw [receivePastBuffer, bind_of_ok (unread_run _), bind_of_ok (modify_run _ _),
    bind_of_ok (get_run _)]
  simp only [readCleared]
  exact bind_of_ok (set_run _ _)

theorem receivePastBuffer_agrees (endless : session.channel.link.IsEndless) (more : Bytes)
    (count : Nat) :
    Agrees more (receivePastBuffer count session)
      (receivePastBuffer count (session.calmed more)) := by
  have agrees := endless.readExact_agrees more (count - session.channel.buffer.unread.length)
  generalize read : session.channel.link.readExact
    (count - session.channel.buffer.unread.length) = outcome at agrees
  generalize readCalmed : (session.channel.link.calmed more).readExact
    (count - session.channel.buffer.unread.length) = outcomeCalmed at agrees
  cases agrees with
  | @interrupted link _ shut =>
      rw [receivePastBuffer_eq read]
      obtain ⟨after, ended, stopped⟩ :=
        @closed_of_shut { session with channel := { session.channel.clear with link } } Bytes shut
      dsimp only
      rw [ended]
      exact .interrupted stopped
  | same endlessAfter =>
      rw [receivePastBuffer_eq read, @receivePastBuffer_eq (session.calmed more) _ _ _ readCalmed]
      exact .same endlessAfter (by simp)

theorem receiveMetadata_agrees (endless : session.channel.link.IsEndless) (more : Bytes)
    (version : UInt8) (length : Nat) :
    Agrees more (receiveMetadata version length session)
      (receiveMetadata version length (session.calmed more)) := by
  rw [receiveMetadata, bind_of_ok (get_run session), bind_of_ok (get_run (session.calmed more))]
  have capacity : (session.calmed more).channel.buffer.capacity =
      session.channel.buffer.capacity := rfl
  rw [capacity]
  by_cases fits : length ≤ session.channel.buffer.capacity
  · rw [if_pos fits]
    apply (receive_agrees endless more fits).bind
    intro bytes second endlessSecond _
    apply (decoded_agrees endlessSecond more _).bind
    intro metadata third endlessThird _
    exact .same endlessThird (by simp)
  · rw [if_neg fits]
    apply (receivePastBuffer_agrees endless more length).bind
    intro bytes after endlessAfter _
    exact decoded_agrees endlessAfter more _

/-! ## Requests -/

theorem takeFrame_agrees (endless : session.channel.link.IsEndless) (more : Bytes)
    (size : Nat) :
    Agrees more (takeFrame size session) (takeFrame size (session.calmed more)) := by
  rw [takeFrame, bind_of_ok (get_run session), bind_of_ok (get_run (session.calmed more))]
  dsimp only
  rw [bind_of_ok (set_run _ _), bind_of_ok (set_run _ _)]
  let taken : Session := { session with channel := { session.channel with
    buffer := ((Channel.realign session.channel.buffer).take size).2 } }
  have endlessTaken : taken.channel.link.IsEndless := endless
  apply @Agrees.bind taken _ _ more _ _ _ _ (decoded_agrees endlessTaken more _)
  intro found after endlessAfter _
  exact .same endlessAfter (by simp)

/-- A call for the next record ends the session where the link is shut down, and otherwise
gives what it gives over the calmed link. -/
theorem nextRecord_agrees (endless : session.channel.link.IsEndless) (more : Bytes)
    (streaming : session.state = .streaming) (roomy : 1 ≤ session.channel.buffer.capacity)
    (timeout : Option Nat) :
    Agrees more (nextRecord timeout session) (nextRecord timeout (session.calmed more)) := by
  have isAllowed : session.state ∈ [SessionState.streaming] := by simp [streaming]
  have running : session.state ≠ .stopped := by simp [streaming]
  rw [nextRecord]
  apply (require_agrees endless more .nextRecord isAllowed running).bind
  intro _ first endlessFirst required
  have calmedRequired :=
    @require_run (session.calmed more) (endless.steady_calmed more) .nextRecord _ isAllowed running
  have sameCalmed : session.calmed more = first.calmed more :=
    congrArg Prod.snd (calmedRequired.symm.trans required)
  have capacity : session.channel.buffer.capacity = first.channel.buffer.capacity :=
    congrArg (fun session => session.channel.buffer.capacity) sameCalmed
  apply (await_agrees endlessFirst more (capacity ▸ roomy) timeout).bind
  intro arrived second endlessSecond _
  cases arrived with
  | false => exact .same endlessSecond (by simp)
  | true =>
      simp only [Bool.not_true, Bool.false_eq_true, if_false]
      rw [bind_of_ok (unread_run second), bind_of_ok (unread_run (second.calmed more))]
      have unread : (second.calmed more).channel.buffer.unread = second.channel.buffer.unread :=
        rfl
      rw [unread]
      generalize Header.sizeOfLength (second.channel.buffer.unread.headD 0) = size
      by_cases short : size < headerSize
      · rw [if_pos short]
        exact .same endlessSecond (by simp)
      · rw [if_neg short, bind_of_ok (get_run second),
          bind_of_ok (get_run (second.calmed more))]
        have capacity : (second.calmed more).channel.buffer.capacity =
          second.channel.buffer.capacity := rfl
        rw [capacity]
        by_cases beyond : second.channel.buffer.capacity < size
        · rw [if_pos beyond]
          exact .same endlessSecond (by simp)
        · rw [if_neg beyond]
          apply (await_agrees endlessSecond more (Nat.le_of_not_lt beyond) timeout).bind
          intro whole third endlessThird _
          cases whole with
          | false => exact .same endlessThird (by simp)
          | true =>
              simp only [Bool.not_true, Bool.false_eq_true, if_false]
              apply (takeFrame_agrees endlessThird more size).bind
              intro frame last endlessLast _
              exact .same endlessLast (by simp)

end Session

end TickWire
