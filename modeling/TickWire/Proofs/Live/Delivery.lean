import TickWire.Live.Delivery
import TickWire.Proofs.Live.Interruption
import TickWire.Proofs.Live.Lifecycle

/-!
# Being stopped

A session that runs by itself ends well when it is stopped from outside, whatever its
listener wants and wherever in its steps it is stopped, but for one: between the look at the
link and the writing of the line that starts the session, where the line cannot be written
any more and the failure is reported.
-/

namespace TickWire

namespace Link

namespace IsEndless

variable {link : Link}

/-- A line is written unless the link is shut down just then. -/
theorem write_agrees (endless : link.IsEndless) (more : Bytes) (later : link.stopAfter? ≠ some 0)
    (unlimited : link.writesLeft? = none) (bytes : Bytes) :
    ∃ after, link.write bytes = (.ok (), after) ∧
      (link.calmed more).write bytes = (.ok (), after.calmed more) ∧ after.IsEndless := by
  obtain ⟨endlessTick, same⟩ := endless.tick_later more later
  have isOpen : ¬link.tick.isShutDown = true := ne_true_of_eq_false endlessTick.isOpen
  have isOpenCalmed : ¬(link.calmed more).isShutDown = true := ne_true_of_eq_false endless.isOpen
  have unlimitedTick := link.ages_tick.unlimited unlimited
  have unlimitedCalmed : (link.calmed more).writesLeft? = none := unlimited
  refine ⟨{ link.tick with sent := link.tick.sent ++ [bytes] }, ?_, ?_, ?_⟩
  · simp only [write, if_neg isOpen, unlimitedTick]
  · simp only [write, (endless.steady_calmed more).tick_eq, if_neg isOpenCalmed, unlimitedCalmed]
    rw [← same]
    simp only [calmed, unlimitedTick]
  · exact ⟨endlessTick.isOpen, endlessTick.silent⟩

end IsEndless

/-- A link that is not shut down within two steps is not shut down in the one that follows. -/
theorem stopAfter?_tick {link : Link} (later : link.stopAfter? ≠ some 1) :
    link.tick.stopAfter? ≠ some 0 := by
  unfold tick
  split
  next undisturbed => simp [undisturbed]
  · nofun
  next steps waits =>
    intro now
    rw [waits, Option.some.inj now] at later
    exact later rfl

/-- A write that meets the shutdown fails. -/
theorem write_of_now {link : Link} (now : link.stopAfter? = some 0) (bytes : Bytes) :
    link.write bytes = (.error .brokenPipe, link.stopFromOutside) := by
  have ticked : link.tick = link.stopFromOutside := by simp only [tick, now]
  simp only [write, ticked, link.isShutDown_stopFromOutside, if_true]

end Link

namespace Session

variable {session : Session}

/-! ## Starting -/

theorem send_agrees (endless : session.channel.link.IsEndless) (more : Bytes)
    (later : session.channel.link.stopAfter? ≠ some 0)
    (unlimited : session.channel.link.writesLeft? = none) (activity : LinkActivity)
    (text : String) :
    ∃ after, onChannel (Channel.send activity text) session = (.ok (), after) ∧
      onChannel (Channel.send activity text) (session.calmed more) =
        (.ok (), after.calmed more) ∧
      after.channel.link.IsEndless ∧ after.channel.buffer = session.channel.buffer := by
  obtain ⟨link, written, writtenCalmed, endlessAfter⟩ :=
    endless.write_agrees more later unlimited (textBytes text)
  have writtenCalmed' : (session.calmed more).channel.link.write (textBytes text) =
      (.ok (), link.calmed more) := writtenCalmed
  refine ⟨{ session with channel := { session.channel with link } }, ?_, ?_, endlessAfter, rfl⟩
  · simp only [onChannel, Channel.send, written]
  · simp only [onChannel, Channel.send, writtenCalmed']
    rfl

/-- A start that is not interrupted before its line is written ends the session where the
link is shut down, and otherwise gives what it gives over the calmed link. -/
theorem start_agrees (subscribed : session.state = .subscribed)
    (endless : session.channel.link.IsEndless)
    (unlimited : session.channel.link.writesLeft? = none)
    (roomy : preludeSize ≤ session.channel.buffer.capacity) (more : Bytes)
    (later : session.channel.link.stopAfter? ≠ some 1) :
    Agrees more (start session) (start (session.calmed more)) := by
  have isAllowed : session.state ∈ [SessionState.subscribed] := by simp [subscribed]
  have running : session.state ≠ .stopped := by simp [subscribed]
  rw [start]
  cases endless.tick_cases more with
  | inl shut =>
      obtain ⟨refused, stopped⟩ := require_shut shut .start [.subscribed]
      rw [bind_of_error refused]
      exact .interrupted stopped
  | inr passed =>
      obtain ⟨endlessTick, same⟩ := passed
      have laterTick : session.looked.channel.link.stopAfter? ≠ some 0 :=
        Link.stopAfter?_tick later
      obtain ⟨asked, sent, sentCalmed, endlessAsked, buffer⟩ :=
        @send_agrees session.looked endlessTick more laterTick
          (session.channel.link.ages_tick.unlimited unlimited) .starting startLine
      rw [calmed_looked endlessTick same] at sentCalmed
      rw [bind_of_ok (require_open endlessTick.isOpen .start isAllowed running),
        bind_of_ok (@require_run (session.calmed more) (endless.steady_calmed more) .start _
          isAllowed running), bind_of_ok sent, bind_of_ok sentCalmed]
      have fits : preludeSize ≤ asked.channel.buffer.capacity := buffer ▸ roomy
      apply (receive_agrees endlessAsked more fits).bind
      intro prelude second endlessSecond _
      apply (decoded_agrees endlessSecond more _).bind
      intro announced third endlessThird _
      obtain ⟨version, length⟩ := announced
      apply (consume_agrees endlessThird more _).bind
      intro _ fourth endlessFourth _
      apply (receiveMetadata_agrees endlessFourth more version length).bind
      intro metadata last endlessLast _
      exact .same endlessLast (by simp)

/-- A start that is interrupted just before its line is written fails to write it. -/
theorem start_interrupted (subscribed : session.state = .subscribed)
    (isOpen : session.channel.link.isShutDown = false)
    (now : session.channel.link.stopAfter? = some 1) :
    ∃ after, start session = (.error (.link .brokenPipe .starting), after) := by
  have ticked : session.channel.link.tick = { session.channel.link with stopAfter? := some 0 } := by
    simp only [Link.tick, now]
  have isOpenTick : session.channel.link.tick.isShutDown = false := by
    rw [ticked]
    exact isOpen
  have nowTick : session.looked.channel.link.stopAfter? = some 0 := by
    rw [looked, ticked]
  let after : Session := { session.looked with
    channel := ⟨session.looked.channel.link.stopFromOutside, session.looked.channel.buffer⟩ }
  have sent : onChannel (Channel.send .starting startLine) session.looked =
      (.error (.link .brokenPipe .starting), after) := by
    simp only [onChannel, Channel.send, Link.write_of_now nowTick]
    rfl
  refine ⟨after, ?_⟩
  rw [start, bind_of_ok (require_open isOpenTick .start (by simp [subscribed])
    (by simp [subscribed])), bind_of_error sent]

/-! ## Delivering -/

/-- A session over an endless link that can be shut down, which receives frames, each of
which can be decoded. -/
structure IsReceiving (session : Session) (more : Bytes) (frames found : List Frame) : Prop where
  endless : session.channel.link.IsEndless
  closes : session.channel.link.closeFailure? = none
  streaming : (session.calmed more).IsStreaming
  incoming_eq : (session.calmed more).channel.incoming = Frame.concat frames
  decode : Frame.DecodeTo session.version session.settings.policy session.stamped frames found

variable {more : Bytes} {frames found : List Frame} {calls : List Call} {bound : Nat}

theorem IsReceiving.of_took (receiving : session.IsReceiving more frames found) {bytes : Bytes}
    {after : Session} (endless : after.channel.link.IsEndless)
    (took : (session.calmed more).Took bytes (after.calmed more))
    {rest restFound : List Frame}
    (comes : (after.calmed more).channel.incoming = Frame.concat rest)
    (decode : Frame.DecodeTo session.version session.settings.policy session.stamped
      rest restFound) : after.IsReceiving more rest restFound where
  endless := endless
  closes := took.ages.closeFailure?_eq.trans receiving.closes
  streaming := receiving.streaming.of_took took
  incoming_eq := comes
  decode := by
    have version : after.version = session.version := took.version_eq
    have settings : after.settings = session.settings := took.settings_eq
    have stamped : after.stamped = session.stamped := took.stamped_eq
    rw [version, settings, stamped]
    exact decode

theorem ages_react (session : Session) (reaction : Reaction) :
    session.channel.link.Ages (session.react reaction).channel.link := by
  unfold react
  dsimp only
  split
  · exact session.channel.link.ages_tick.trans (Link.ages_close _)
  · exact session.channel.link.ages_tick

/-- Handing something to a listener leaves the link shut down, or everything as it was. -/
theorem IsReceiving.react_cases (receiving : session.IsReceiving more frames found)
    (reaction : Reaction) :
    (session.react reaction).channel.link.isShutDown = true ∨
      (session.react reaction).IsReceiving more frames found ∧
        (session.react reaction).calmed more = session.calmed more := by
  let ticked : Session := { session with
    channel := { session.channel with link := session.channel.link.tick } }
  by_cases shutsDown : reaction.shutsDown = true
  · have reacted : session.react reaction = ticked.shutDown.2 := if_pos shutsDown
    rw [reacted]
    exact .inl ticked.channel.link.isShutDown_close
  · have reacted : session.react reaction = ticked := if_neg shutsDown
    rw [reacted]
    cases receiving.endless.tick_cases more with
    | inl shut => exact .inl shut
    | inr passed =>
        obtain ⟨endless, same⟩ := passed
        have sameCalmed : ticked.calmed more = session.calmed more := by
          simp only [ticked, calmed, same]
        exact .inr ⟨{
          endless
          closes := session.channel.link.ages_tick.closeFailure?_eq.trans receiving.closes
          streaming := sameCalmed ▸ receiving.streaming
          incoming_eq := sameCalmed ▸ receiving.incoming_eq
          decode := receiving.decode }, sameCalmed⟩

/-- What is still to come: the bytes, and the timeouts between them. -/
def outstanding (session : Session) : Nat :=
  session.channel.incoming.length + session.channel.link.timeouts

theorem Took.outstanding_le {before after : Session} {bytes : Bytes}
    (took : before.Took bytes after) : bytes.length + after.outstanding ≤ before.outstanding := by
  have timeouts := took.channel.timeouts_le
  rw [outstanding, outstanding, took.channel.incoming_eq, List.length_append]
  omega

theorem IsReceiving.length_le_outstanding (receiving : session.IsReceiving more frames found) :
    more.length ≤ (session.calmed more).outstanding := by
  rw [outstanding, incoming_calmed receiving.endless, List.length_append]
  omega

/-- A delivery makes enough calls to meet everything that is still to come. -/
theorem IsReceiving.outstanding_lt (receiving : session.IsReceiving more frames found) :
    (session.calmed more).outstanding <
      session.channel.link.budget + session.channel.buffer.unreadLength + 1 + more.length := by
  have timeouts : (session.calmed more).channel.link.timeouts = session.channel.link.timeouts :=
    receiving.endless.timeouts_calmed more
  have pending := session.channel.link.pending_lt_budget
  rw [outstanding, incoming_calmed receiving.endless, timeouts, Channel.incoming,
    List.length_append, List.length_append, ByteBuffer.length_unread]
  omega

/-- The frame that is taken decodes, and the others are still to come. -/
theorem IsReceiving.next {frame : Frame} {others : List Frame}
    (receiving : session.IsReceiving more (frame :: others) found) {after : Session}
    (endless : after.channel.link.IsEndless)
    (took : (session.calmed more).Took frame.bytes (after.calmed more)) :
    ∃ shown rest, (session.calmed more).resultOf frame = .ok (some shown) ∧
      after.IsReceiving more others rest ∧
      (after.calmed more).outstanding < (session.calmed more).outstanding := by
  have decode := receiving.decode
  cases decode with
  | @cons _ shown _ rest decodeFirst decodeOthers =>
      have comes := took.incoming_of_frame receiving.incoming_eq
      have fewer := took.outstanding_le
      have header : 0 < frame.bytes.length :=
        Nat.lt_of_lt_of_le (by decide) frame.headerSize_le_length
      exact ⟨shown, rest, @resultOf_of_decode (session.calmed more) _ _ decodeFirst,
        receiving.of_took endless took comes decodeOthers, by omega⟩

/-- A delivery that goes on over a link that is shut down ends well. -/
theorem deliverWithin_of_shut (shut : session.channel.link.isShutDown = true)
    (listener : Listener) (timeout : Option Nat) (positive : 0 < bound) :
    (deliverWithin listener timeout bound calls session).result = .ok () := by
  obtain ⟨bound, rfl⟩ := Nat.exists_eq_succ_of_ne_zero (Nat.ne_of_gt positive)
  obtain ⟨refused, stopped⟩ := require_shut
    (session.channel.link.ages_tick.shutDown shut) .nextRecord [.streaming]
  have called : nextRecord timeout session = (.error .sessionClosed, session.looked) := by
    rw [nextRecord, bind_of_error refused]
  simp only [deliverWithin, called, finish, stop_of_stopped stopped]

/-- A delivery ends well where every frame that comes in can be decoded, whenever it is
stopped. -/
theorem deliverWithin_ok (receiving : session.IsReceiving more frames found)
    (enough : (session.calmed more).outstanding < bound + more.length)
    (listener : Listener) (timeout : Option Nat) :
    (deliverWithin listener timeout bound calls session).result = .ok () := by
  -- What is still to come bounds the calls; a call that is interrupted is the last one.
  induction bound generalizing session frames found calls with
  | zero =>
      have atLeast := receiving.length_le_outstanding
      omega
  | succ bound ih =>
      have roomy : 1 ≤ session.channel.buffer.capacity :=
        Nat.le_trans (by decide) receiving.streaming.roomy
      have agrees := nextRecord_agrees receiving.endless more receiving.streaming.streaming
        roomy timeout
      have outcome := nextRecord_outcome receiving.streaming receiving.incoming_eq timeout
      rw [deliverWithin]
      generalize nextRecord timeout session = called at agrees
      generalize nextRecord timeout (session.calmed more) = calledCalmed at agrees outcome
      cases agrees with
      | @interrupted after _ stopped => simp only [finish, stop_of_stopped stopped]
      | @same result after endless goesOn =>
          cases outcome with
          | ended => exact absurd rfl goesOn
          | late took timeouts =>
              have comes := took.channel.incoming_eq.symm.trans receiving.incoming_eq
              have fewer : (after.calmed more).outstanding < (session.calmed more).outstanding := by
                rw [outstanding, outstanding, took.channel.incoming_eq]
                exact Nat.add_lt_add_left timeouts _
              exact ih (receiving.of_took endless took comes receiving.decode) (by omega)
          | @next frame others _ took =>
              obtain ⟨shown, rest, result, receivingAfter, fewer⟩ := receiving.next endless took
              have positive : 0 < bound := by
                have atLeast := receivingAfter.length_le_outstanding
                omega
              rw [result]
              dsimp only
              split
              · cases receivingAfter.react_cases (listener.onRecord (Call.frames calls) shown) with
                | inl shut => exact deliverWithin_of_shut shut listener timeout positive
                | inr goesOn =>
                    obtain ⟨receivingNext, same⟩ := goesOn
                    exact ih receivingNext (by rw [same]; omega)
              · apply stop_ok
                exact (after.ages_react _).closeFailure?_eq.trans receivingAfter.closes

/-! ## Whole deliveries -/

/-- A session that is subscribed and stopped from outside ends well wherever it is stopped
and whatever its listener wants, unless it is stopped just before its start is written. -/
theorem deliver_stopped (session : Session) (subscribed : session.state = .subscribed)
    (endless : session.channel.link.IsEndless)
    (unlimited : session.channel.link.writesLeft? = none)
    (closes : session.channel.link.closeFailure? = none)
    (roomy : frameMaximumSize ≤ session.channel.buffer.capacity) (block : MetadataBlock)
    (frames : List Frame)
    (comes : session.channel.incoming <+: block.bytes ++ Frame.concat frames)
    (decodable : ∀ frame ∈ frames, ∃ found,
      frame.decodeAlone block.version session.settings.policy block.metadata.stamped = .ok found)
    (listener : Listener) (timeout : Option Nat) :
    (session.deliver listener timeout).result =
      if session.channel.link.stopAfter? = some 1 then .error (.link .brokenPipe .starting)
      else .ok () := by
  obtain ⟨more, whole⟩ := comes
  obtain ⟨found, decode⟩ := Frame.exists_decodeTo decodable
  by_cases now : session.channel.link.stopAfter? = some 1
  · obtain ⟨after, failed⟩ := start_interrupted subscribed endless.isOpen now
    rw [if_pos now]
    simp only [deliver, failed, abandon]
  · have agrees := start_agrees subscribed endless unlimited
      (Nat.le_trans (by decide) roomy) more now
    obtain ⟨calm, ran, started⟩ := @start_run (session.calmed more) subscribed
      (endless.steady_calmed more) (fun none => nomatch unlimited.symm.trans none) roomy block _
      ((incoming_calmed endless more).trans whole)
    rw [if_neg now, deliver]
    generalize start session = called at agrees
    rw [ran] at agrees
    cases agrees with
    | interrupted stopped => rfl
    | @same _ after endlessAfter _ =>
        have receiving : after.IsReceiving more frames found := {
          endless := endlessAfter
          closes := started.ages.closeFailure?_eq.trans closes
          streaming := started.streaming
          incoming_eq := started.incoming_eq
          decode := by
            have version : after.version = block.version := started.version_eq
            have settings : after.settings = session.settings := started.settings_eq
            have stamped : after.stamped = block.metadata.stamped := started.stamped_eq
            rw [version, settings, stamped]
            exact decode }
        dsimp only [deliverRecords]
        cases receiving.react_cases (listener.onMetadata _) with
        | inl shut => exact deliverWithin_of_shut shut listener timeout (Nat.succ_pos _)
        | inr goesOn =>
            obtain ⟨receivingNext, -⟩ := goesOn
            exact deliverWithin_ok receivingNext receivingNext.outstanding_lt listener timeout

/-- A session that is stopped while the rest of a block of metadata arrives. -/
theorem deliver_stopped_in_metadata :
    let block := Metadata.isStorable_ofOneDay.block
    let bytes := block.bytes ++ Frame.concat [RecordDecoder.bareFrame 0x00]
    let session : Session := {
      settings := .smallest
      number := 7
      state := .subscribed
      channel := ⟨{
          events := [.arrival (bytes.take 5), .timeout, .arrival (bytes.drop 5)] ++ [.silence]
          stopAfter? := some 4 },
        ByteBuffer.ofCapacity Settings.smallest.bufferSize⟩
      stamped := true }
    (session.deliver ⟨fun _ => {}, fun _ _ => {}⟩ none).result = .ok () := by
  intro block bytes session
  have calm : ∀ event ∈ [LinkEvent.arrival (bytes.take 5), .timeout, .arrival (bytes.drop 5)],
      event.isCalm = true := by
    simp [LinkEvent.isCalm]
  have comes : session.channel.incoming = bytes := by
    simp [session, Channel.incoming, Link.pending, LinkEvent.bytes]
  have decodable : ∀ frame ∈ [RecordDecoder.bareFrame 0x00], ∃ found,
      frame.decodeAlone block.version .upgrade block.metadata.stamped = .ok found := by
    intro frame member
    rw [List.mem_singleton.mp member]
    exact ⟨_, rfl⟩
  exact deliver_stopped session rfl ⟨rfl, _, rfl, calm⟩ rfl rfl
    (ByteBuffer.le_capacity_ofCapacity _) block _ (comes ▸ List.prefix_refl bytes) decodable _ none

/-- A session that is stopped just before its start is written reports that it could not be
written, although it was stopped without a failure. -/
theorem deliver_stopped_before_start :
    let session : Session := {
      settings := .smallest
      number := 7
      state := .subscribed
      channel := ⟨{ events := [.silence], stopAfter? := some 1 },
        ByteBuffer.ofCapacity Settings.smallest.bufferSize⟩
      stamped := true }
    let delivery := session.deliver ⟨fun _ => {}, fun _ _ => {}⟩ none
    session.channel.link.IsEndless ∧ session.channel.incoming = [] ∧
      session.channel.link.closeFailure? = none ∧
      delivery.session.channel.link.stopResult? = some (.ok ()) ∧
      delivery.result = .error (.link .brokenPipe .starting) ∧ delivery.result ≠ .ok () := by
  intro session delivery
  have calm : ∀ event ∈ ([] : List LinkEvent), event.isCalm = true := by
    nofun
  have failed : delivery.result = .error (.link .brokenPipe .starting) := rfl
  refine ⟨⟨rfl, [], rfl, calm⟩, rfl, rfl, rfl, failed, ?_⟩
  rw [failed]
  nofun

end Session

end TickWire
