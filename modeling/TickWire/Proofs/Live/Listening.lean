import TickWire.Live.Delivery
import TickWire.Proofs.Live.Bounds

/-!
# Listening

A session that runs by itself hands to its listener what the same calls would give without
one: the metadata first, then the frames in order, as long as the listener wants more.  Each
call that gives something or nothing takes from what the session can still take, so such a
run always ends, and it ends with the first error unless the listener had enough before.
-/

namespace TickWire

namespace Call

@[simp] theorem frames_append_record (calls : List Call) (frame : Frame) :
    frames (calls ++ [.record frame]) = frames calls ++ [frame] :=
  List.filterMap_append

end Call

namespace Listener

variable (listener : Listener)

/-- A listener that never shuts the link down. -/
structure IsQuiet : Prop where
  onMetadata : ∀ metadata, (listener.onMetadata metadata).shutsDown = false
  onRecord : ∀ earlier frame, (listener.onRecord earlier frame).shutsDown = false

/-- The frames that a listener is called with out of those that come: all up to the first
one after which it wants no more, and that one. -/
def wanted : (earlier frames : List Frame) → List Frame
  | _, [] => []
  | earlier, frame :: later =>
    frame :: if (listener.onRecord earlier frame).keepGoing then
      wanted (earlier ++ [frame]) later else []

/-- Whether a listener wants no more after one of the frames that come. -/
def hasEnough : (earlier frames : List Frame) → Bool
  | _, [] => false
  | earlier, frame :: later =>
    !(listener.onRecord earlier frame).keepGoing || hasEnough (earlier ++ [frame]) later

end Listener

namespace Session

/-- How being called ends where a session gives an error. -/
def endOf (error : LiveError) : Except LiveError Unit :=
  if error = .sessionClosed then .ok () else .error error

section Runs

variable (listener : Listener) (timeout : Option Nat)

/-- A listener is called with one record after the other: after each the session goes on from
where the listener left it. -/
inductive Hears : (earlier : List Frame) → Session → (frames : List Frame) →
    Except LiveError Unit → Prop where
  | late {earlier frames : List Frame} {session after : Session} {result : Except LiveError Unit}
      (called : nextRecord timeout session = (.ok none, after))
      (later : Hears earlier after frames result) : Hears earlier session frames result
  | wants {earlier frames : List Frame} {session after : Session} {frame : Frame}
      {result : Except LiveError Unit}
      (called : nextRecord timeout session = (.ok (some frame), after))
      (keepGoing : (listener.onRecord earlier frame).keepGoing = true)
      (later : Hears (earlier ++ [frame]) (after.react (listener.onRecord earlier frame)) frames
        result) : Hears earlier session (frame :: frames) result
  | enough {earlier : List Frame} {session after : Session} {frame : Frame}
      (called : nextRecord timeout session = (.ok (some frame), after))
      (noMore : (listener.onRecord earlier frame).keepGoing = false) :
      Hears earlier session [frame] (after.react (listener.onRecord earlier frame)).stop.1
  | ended {earlier : List Frame} {session after : Session} {error : LiveError}
      (called : nextRecord timeout session = (.error error, after)) :
      Hears earlier session [] (endOf error)

/-- A listener is called with the metadata once the session has started, and with records
after that. -/
inductive Runs (session : Session) : List Call → Except LiveError Unit → Prop where
  | refused {error : LiveError} {after : Session}
      (failed : start session = (.error error, after)) : Runs session [] (endOf error)
  | started {metadata : Metadata} {after : Session} {frames : List Frame}
      {result : Except LiveError Unit} (ran : start session = (.ok metadata, after))
      (hears : Hears listener timeout [] (after.react (listener.onMetadata metadata)) frames
        result) : Runs session (.metadata metadata :: frames.map .record) result

end Runs

/-- What calls for the next record give until one fails. -/
structure Reading where
  frames : List Frame
  error? : Option LiveError
  session : Session

/-- Calls for the next record until one fails, with a bound on the number of calls. -/
def readAll (timeout : Option Nat) : (bound : Nat) → Session → Reading
  | 0, session => ⟨[], none, session⟩
  | bound + 1, session =>
    match nextRecord timeout session with
    | (.ok none, session) => readAll timeout bound session
    | (.ok (some frame), session) =>
      let reading := readAll timeout bound session
      { reading with frames := frame :: reading.frames }
    | (.error error, session) => ⟨[], some error, session⟩

variable {session after : Session} {timeout : Option Nat}

/-! ## Single calls -/

/-- A call that does not fail takes from what the session can take, and the session streams
on. -/
structure Proceeds (before after : Session) : Prop where
  supply_lt : after.supply < before.supply
  streaming : after.state = .streaming
  capacity_eq : after.channel.buffer.capacity = before.channel.buffer.capacity
  link : before.channel.link.Reads after.channel.link

theorem nextRecord_proceeds {frame? : Option Frame}
    (called : nextRecord timeout session = (.ok frame?, after)) : session.Proceeds after := by
  have ended := session.nextRecord_end timeout
  generalize nextRecord timeout session = outcome at ended called
  have looks := session.channel.link.reads_tick
  have proceeds {arrived taken : Bytes} {next : Session}
      (streaming : session.looked.state = .streaming)
      (passed : session.looked.Passed arrived taken next)
      (fewer : next.supply < session.looked.supply) : session.Proceeds next :=
    ⟨session.supply_looked ▸ fewer, passed.state_eq.trans streaming, passed.capacity_eq,
      looks.trans passed.link⟩
  cases ended with
  | stopped | refused => cases called
  | read streaming ended =>
      cases ended with
      | ended | failed | short => cases called
      | late passed fewer =>
          cases called
          exact proceeds streaming passed fewer
      | @taken arrived frame _ passed =>
          obtain ⟨-, rfl⟩ := Prod.mk.inj called
          have header := frame.headerSize_le_length
          have paid := passed.supply_le
          rw [headerSize] at header
          exact proceeds streaming passed (by omega)

theorem perform_nextRecord {error : LiveError}
    (failed : nextRecord timeout session = (.error error, after)) :
    (Request.nextRecord timeout).perform session = (.error error, after) :=
  map_run failed Reply.record

theorem perform_start {result : Except LiveError Metadata}
    (ran : start session = (result, after)) :
    Request.start.perform session = (result.map .metadata, after) :=
  map_run ran Reply.metadata

/-- Nothing happens to a session that looks at a link which nobody shuts down. -/
theorem looked_of_undisturbed (undisturbed : session.channel.link.IsUndisturbed) :
    session.looked = session := by
  rw [looked, undisturbed.tick_eq, if_neg (ne_true_of_eq_false undisturbed.isOpen)]

/-- What ends a session that nobody shuts down: the gateway closes the connection, which
stops the session, or an error does.  Where nothing fails on the link and every record fits
into the buffer, that is an error of what the gateway sent. -/
structure GatewayEnds (before : Session) (error : LiveError) (after : Session) : Prop where
  notClosed : error ≠ .sessionClosed
  closed_iff : error = .streamClosed ↔ after.state = .stopped
  ofGateway : before.channel.link.IsSmooth →
    frameMaximumSize ≤ before.channel.buffer.capacity →
      error = .streamClosed ∨ ∃ fault, error = .format fault

theorem GatewayEnds.of_earlier {before : Session} {error : LiveError}
    (ends : session.GatewayEnds error after)
    (smooth : before.channel.link.IsSmooth → session.channel.link.IsSmooth)
    (capacity : session.channel.buffer.capacity = before.channel.buffer.capacity) :
    before.GatewayEnds error after where
  notClosed := ends.notClosed
  closed_iff := ends.closed_iff
  ofGateway was roomy := ends.ofGateway (smooth was) (capacity ▸ roomy)

theorem gatewayEnds_of_undisturbed {request : Request} {error : LiveError}
    (undisturbed : session.channel.link.IsUndisturbed) (fit : session.state ∈ request.allowed)
    (failed : request.perform session = (.error error, after))
    (excused : frameMaximumSize ≤ session.channel.buffer.capacity →
      error.isOfArguments = false) : session.GatewayEnds error after := by
  have running : session.state ≠ .stopped := fun stopped =>
    request.stopped_notMem_allowed (stopped ▸ fit)
  have answer := request.answer session
  rw [failed] at answer
  generalize outcome : ((.error error, after) : Except LiveError Reply × Session) = found at answer
  have same := looked_of_undisturbed undisturbed
  cases answer with
  | ended stopped => exact absurd (same ▸ stopped) running
  | refused _ unfit => exact absurd (same.symm ▸ fit) unfit
  | handled _ does =>
      cases outcome
      rw [same] at does
      have other : error ≠ .sessionClosed := fun closed =>
        does.notClosed undisturbed (congrArg some closed)
      refine ⟨other, ?_, fun smooth roomy => ?_⟩
      · rw [does.state_eq]
        cases error <;> simp_all [stateAfter, LiveError.isEnd]
      · have ofStream := does.isOfStream_eq smooth error rfl
        have notOfArguments := excused roomy
        cases error with
        | streamClosed => exact .inl rfl
        | format fault => exact .inr ⟨fault, rfl⟩
        | configuration => cases notOfArguments
        | protocol | authentication | sessionClosed | invalidState | link => cases ofStream

theorem gatewayEnds_nextRecord {error : LiveError}
    (undisturbed : session.channel.link.IsUndisturbed) (streaming : session.state = .streaming)
    (failed : nextRecord timeout session = (.error error, after)) :
    session.GatewayEnds error after :=
  gatewayEnds_of_undisturbed undisturbed (by simp [streaming, Request.allowed])
    (perform_nextRecord failed) fun roomy =>
      excuses_nextRecord timeout roomy error (congrArg Prod.fst failed)

theorem gatewayEnds_start {error : LiveError} (undisturbed : session.channel.link.IsUndisturbed)
    (subscribed : session.state = .subscribed) (failed : start session = (.error error, after)) :
    session.GatewayEnds error after :=
  gatewayEnds_of_undisturbed undisturbed (by simp [subscribed, Request.allowed])
    (perform_start failed) fun roomy =>
      (isBounded_of_roomy roomy).start_error error (congrArg Prod.fst failed)

theorem react_of_quiet {reaction : Reaction} (quiet : reaction.shutsDown = false)
    (undisturbed : session.channel.link.IsUndisturbed) : session.react reaction = session := by
  simp [react, quiet, undisturbed.tick_eq]

/-- A listener takes nothing that is still to come. -/
theorem supply_react (reaction : Reaction) (session : Session) :
    (session.react reaction).supply = session.supply := by
  have ticks := Link.budget_eq_of_events session.channel.link.sameTraffic_tick.events_eq
  have closes := Link.budget_eq_of_events session.channel.link.tick.sameTraffic_close.events_eq
  rw [react]
  dsimp only
  split
  · exact congrArg (· + session.channel.buffer.unreadLength) (closes.trans ticks)
  · exact congrArg (· + session.channel.buffer.unreadLength) ticks

/-! ## Whole runs -/

theorem deliverWithin_of_error (listener : Listener) (bound : Nat) (calls : List Call)
    {error : LiveError} (called : nextRecord timeout session = (.error error, after)) :
    (deliverWithin listener timeout (bound + 1) calls session).calls = calls ∧
      (deliverWithin listener timeout (bound + 1) calls session).result = endOf error := by
  rw [deliverWithin, called]
  cases error with
  | sessionClosed =>
      have stopped := Request.state_eq_stopped_of_end (perform_nextRecord called) rfl
      exact ⟨rfl, congrArg Prod.fst (stop_of_stopped stopped)⟩
  | _ => exact ⟨rfl, rfl⟩

theorem deliver_of_error (listener : Listener) (timeout : Option Nat) {error : LiveError}
    (failed : start session = (.error error, after)) :
    (session.deliver listener timeout).calls = [] ∧
      (session.deliver listener timeout).result = endOf error := by
  rw [deliver, failed]
  cases error <;> exact ⟨rfl, rfl⟩

/-- Only calls with records follow the calls that were made before.  What can still be taken
bounds the attempts, so a delivery goes on to its end. -/
theorem deliverWithin_hears (listener : Listener) {bound : Nat} (calls : List Call)
    (enough : session.supply < bound) :
    ∃ more, (deliverWithin listener timeout bound calls session).calls =
        calls ++ more.map .record ∧
      Hears listener timeout (Call.frames calls) session more
        (deliverWithin listener timeout bound calls session).result := by
  induction bound generalizing session calls with
  | zero => contradiction
  | succ bound ih =>
      rw [deliverWithin]
      cases called : nextRecord timeout session with
      | mk result after =>
          rcases result with error | _ | frame
          · obtain ⟨made, result⟩ := deliverWithin_of_error listener bound calls called
            rw [deliverWithin, called] at made result
            exact ⟨[], made.trans (List.append_nil calls).symm, result ▸ .ended called⟩
          · have fewer := (nextRecord_proceeds called).supply_lt
            have left : after.supply < bound := by omega
            obtain ⟨more, made, hears⟩ := ih calls left
            exact ⟨more, made, .late called hears⟩
          · have fewer := (nextRecord_proceeds called).supply_lt
            have same := supply_react (listener.onRecord (Call.frames calls) frame) after
            have left : (after.react (listener.onRecord (Call.frames calls) frame)).supply <
                bound := by omega
            dsimp only
            split
            next goesOn =>
              obtain ⟨more, made, hears⟩ := ih (calls ++ [.record frame]) left
              rw [Call.frames_append_record] at hears
              refine ⟨frame :: more, ?_, .wants called goesOn hears⟩
              rw [made, List.append_assoc, List.singleton_append, List.map_cons]
            next noMore =>
              exact ⟨[frame], rfl, .enough called (eq_false_of_ne_true noMore)⟩

theorem deliver_runs (listener : Listener) (timeout : Option Nat) (session : Session) :
    session.Runs listener timeout (session.deliver listener timeout).calls
      (session.deliver listener timeout).result := by
  cases ran : start session with
  | mk result after =>
      cases result with
      | error error =>
          obtain ⟨calls, result⟩ := deliver_of_error listener timeout ran
          rw [calls, result]
          exact .refused ran
      | ok metadata =>
          have enough :=
            Nat.lt_succ_self (after.react (listener.onMetadata metadata)).supply
          obtain ⟨frames, made, hears⟩ :=
            @deliverWithin_hears _ timeout listener _ [.metadata metadata] enough
          rw [deliver, ran]
          exact made ▸ .started ran hears

/-! ## Runs that nobody disturbs -/

/-- How closing ends a session that is not stopped yet. -/
def closing (session : Session) : Except LiveError Unit :=
  match session.channel.link.closeFailure? with
  | some failure => .error (.link failure .closing)
  | none => .ok ()

theorem stop_of_streaming (streaming : session.state = .streaming)
    (isOpen : session.channel.link.isShutDown = false) : session.stop.1 = session.closing := by
  have running : session.state ≠ .stopped := by simp [streaming]
  have isOpenHalted : ¬session.halt.channel.link.isShutDown = true := ne_true_of_eq_false isOpen
  have same : session.halt.channel.link.closeFailure? = session.channel.link.closeFailure? := rfl
  rw [stop, bind_of_ok (get_run _), if_neg running, bind_of_ok (modify_run _ _), closing]
  simp only [onChannel, Channel.close, Link.close, if_neg isOpenHalted, same]
  cases session.channel.link.closeFailure? <;> rfl

theorem closing_eq (ages : session.channel.link.Ages after.channel.link) :
    after.closing = session.closing := by
  rw [closing, closing, ages.closeFailure?_eq]

/-- Where nobody shuts the link down, reading goes on until the gateway ends it. -/
theorem readAll_ends (timeout : Option Nat) (undisturbed : session.channel.link.IsUndisturbed)
    (streaming : session.state = .streaming) {bound : Nat} (enough : session.supply < bound) :
    ∃ error, (readAll timeout bound session).error? = some error ∧
      session.GatewayEnds error (readAll timeout bound session).session := by
  induction bound generalizing session with
  | zero => contradiction
  | succ bound ih =>
      rw [readAll]
      cases called : nextRecord timeout session with
      | mk result after =>
          rcases result with error | _ | frame
          · exact ⟨error, rfl, gatewayEnds_nextRecord undisturbed streaming called⟩
          all_goals
            have proceeds := nextRecord_proceeds called
            have fewer := proceeds.supply_lt
            obtain ⟨error, failed, ends⟩ :=
              ih (proceeds.link.undisturbed undisturbed) proceeds.streaming (by omega)
            exact ⟨error, failed, ends.of_earlier proceeds.link.smooth proceeds.capacity_eq⟩

/-- A quiet listener is called with what the same calls give without it. -/
theorem Hears.eq_readAll {listener : Listener} (quiet : listener.IsQuiet)
    {earlier frames : List Frame} {result : Except LiveError Unit}
    (hears : Hears listener timeout earlier session frames result)
    (undisturbed : session.channel.link.IsUndisturbed) (streaming : session.state = .streaming)
    {bound : Nat} (enough : session.supply < bound) :
    frames = listener.wanted earlier (readAll timeout bound session).frames ∧
      ∀ error, (readAll timeout bound session).error? = some error →
        result = if listener.hasEnough earlier (readAll timeout bound session).frames then
          session.closing else .error error := by
  induction hears generalizing bound with
  | @late earlier frames session after result called later ih =>
      obtain _ | bound := bound
      · contradiction
      have proceeds := nextRecord_proceeds called
      have fewer := proceeds.supply_lt
      rw [readAll, called, ← closing_eq proceeds.link.ages]
      exact ih (proceeds.link.undisturbed undisturbed) proceeds.streaming (by omega)
  | @wants earlier frames session after frame result called keepGoing later ih =>
      obtain _ | bound := bound
      · contradiction
      have proceeds := nextRecord_proceeds called
      have fewer := proceeds.supply_lt
      have undisturbedAfter := proceeds.link.undisturbed undisturbed
      have reacts := react_of_quiet (quiet.onRecord earlier frame) undisturbedAfter
      rw [reacts] at ih
      have left : after.supply < bound := by omega
      obtain ⟨rest, ends⟩ := ih undisturbedAfter proceeds.streaming left
      rw [readAll, called, ← closing_eq proceeds.link.ages]
      simp only [Listener.wanted, Listener.hasEnough, keepGoing, if_true, Bool.not_true,
        Bool.false_or]
      exact ⟨congrArg (frame :: ·) rest, ends⟩
  | @enough earlier session after frame called noMore =>
      obtain _ | bound := bound
      · contradiction
      have proceeds := nextRecord_proceeds called
      have undisturbedAfter := proceeds.link.undisturbed undisturbed
      rw [readAll, called, react_of_quiet (quiet.onRecord earlier frame) undisturbedAfter,
        stop_of_streaming proceeds.streaming undisturbedAfter.isOpen,
        ← closing_eq proceeds.link.ages]
      simp [Listener.wanted, Listener.hasEnough, noMore]
  | @ended earlier session after error called =>
      obtain _ | bound := bound
      · contradiction
      have ends := gatewayEnds_nextRecord undisturbed streaming called
      rw [readAll, called]
      refine ⟨rfl, ?_⟩
      rintro _ ⟨⟩
      exact if_neg ends.notClosed

theorem start_of_undisturbed {metadata : Metadata}
    (undisturbed : session.channel.link.IsUndisturbed)
    (ran : start session = (.ok metadata, after)) :
    after.state = .streaming ∧ Request.start.Handled session none after := by
  have answer := Request.start.answer session
  rw [perform_start ran] at answer
  cases answer with
  | handled _ does =>
      rw [looked_of_undisturbed undisturbed] at does
      exact ⟨does.state_eq, does⟩

/-- What a listener is called with, and how that ends, where nobody shuts the link down. -/
inductive Follows (listener : Listener) (timeout : Option Nat) (session : Session)
    (delivery : Delivery) : Prop where
  | refused {error : LiveError} {after : Session} (failed : start session = (.error error, after))
      (calls_eq : delivery.calls = []) (result_eq : delivery.result = .error error)
      (ends : session.GatewayEnds error after)
  /-- The first error of the calls ends the delivery, unless the listener has enough. -/
  | started {metadata : Metadata} {after : Session} (ran : start session = (.ok metadata, after))
      (reads : ∀ bound, after.supply < bound →
        let reading := readAll timeout bound after
        delivery.calls =
          .metadata metadata :: (listener.wanted [] reading.frames).map .record ∧
        ∃ error, reading.error? = some error ∧ session.GatewayEnds error reading.session ∧
          delivery.result =
            if listener.hasEnough [] reading.frames then session.closing else .error error)

theorem deliver_follows {listener : Listener} (quiet : listener.IsQuiet)
    (subscribed : session.state = .subscribed)
    (undisturbed : session.channel.link.IsUndisturbed) :
    Follows listener timeout session (session.deliver listener timeout) := by
  have runs := deliver_runs listener timeout session
  generalize session.deliver listener timeout = delivery at runs
  generalize callsOf : delivery.calls = calls at runs
  generalize resultOf : delivery.result = result at runs
  cases runs with
  | refused failed =>
      have ends := gatewayEnds_start undisturbed subscribed failed
      exact .refused failed callsOf (resultOf.trans (if_neg ends.notClosed)) ends
  | @started metadata after frames _ ran hears =>
      obtain ⟨streaming, does⟩ := start_of_undisturbed undisturbed ran
      have undisturbedAfter := does.undisturbed undisturbed
      rw [react_of_quiet (quiet.onMetadata metadata) undisturbedAfter] at hears
      refine .started ran fun bound enough => ?_
      obtain ⟨heard, result⟩ := hears.eq_readAll quiet undisturbedAfter streaming enough
      obtain ⟨error, failed, ends⟩ := readAll_ends timeout undisturbedAfter streaming enough
      refine ⟨?_, error, failed, ends.of_earlier does.smooth does.capacity_eq, ?_⟩
      · rw [callsOf, heard]
      · rw [resultOf, result error failed, closing_eq does.ages]

theorem state_eq_subscribed_of_deliverable (deliverable : session.checkDeliverable = .ok ()) :
    session.state = .subscribed := by
  have subscribed : session.currentState = .subscribed := by
    by_contra other
    rw [checkDeliverable, if_neg other] at deliverable
    cases deliverable
  rw [currentState] at subscribed
  split at subscribed
  · cases subscribed
  · exact subscribed

/-- A session that runs by itself calls its listener with the metadata and then with the
records that calls for the next record give, and goes on from where the listener left it each
time.  Where nobody shuts the link down, these are the records that the same calls give
without a listener, up to the first one after which it has enough; then closing says how it
ends, and otherwise the first error does. -/
theorem deliver_listens (session : Session) (listener : Listener) (timeout : Option Nat)
    (deliverable : session.checkDeliverable = .ok ()) :
    session.Runs listener timeout (session.deliver listener timeout).calls
        (session.deliver listener timeout).result ∧
      (session.channel.link.IsUndisturbed → listener.IsQuiet →
        Follows listener timeout session (session.deliver listener timeout)) :=
  ⟨deliver_runs listener timeout session, fun undisturbed quiet =>
    deliver_follows quiet (state_eq_subscribed_of_deliverable deliverable) undisturbed⟩

/-- A listener that wants one record of two, the second of which arrives after a timeout, just
before the gateway closes the connection. -/
theorem deliver_listens_once :
    let frame := RecordDecoder.bareFrame 0x00
    let block := Metadata.isStorable_ofOneDay.block
    let link : Link :=
      { events := [.arrival (block.bytes ++ frame.bytes), .timeout, .arrival frame.bytes, .closed] }
    let session : Session := {
      settings := .smallest
      number := 7
      state := .subscribed
      channel := ⟨link, ByteBuffer.ofCapacity Settings.smallest.bufferSize⟩
      stamped := true }
    let listener : Listener := ⟨fun _ => {}, fun _ _ => { keepGoing := false }⟩
    let delivery := session.deliver listener (some 1000)
    session.checkDeliverable = .ok () ∧ session.channel.link.IsSmooth ∧
      frameMaximumSize ≤ session.channel.buffer.capacity ∧
      session.Runs listener (some 1000) delivery.calls delivery.result ∧
      Follows listener (some 1000) session delivery := by
  intro frame block link session listener delivery
  have deliverable : session.checkDeliverable = .ok () := rfl
  have smooth : session.channel.link.IsSmooth :=
    ⟨⟨rfl, rfl, by simp [session, link]⟩, by simp [session, link, LinkEvent.isPlain], rfl⟩
  have quiet : listener.IsQuiet := ⟨fun _ => rfl, fun _ _ => rfl⟩
  obtain ⟨runs, follows⟩ := deliver_listens session listener (some 1000) deliverable
  exact ⟨deliverable, smooth, ByteBuffer.le_capacity_ofCapacity _, runs,
    follows smooth.toIsUndisturbed quiet⟩

end Session

end TickWire
