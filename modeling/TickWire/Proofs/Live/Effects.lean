import TickWire.Live.Session
import TickWire.Proofs.Buffer
import TickWire.Proofs.Outcome

/-!
# Effects of receiving

What steps do over any link, whatever the gateway sends and whenever the link is shut
down.  A link is shut down at most once and never opened again.  Receiving writes nothing,
and it changes the state of a session only by ending it, which its error then says.
-/

namespace TickWire

/-- Whether an error says that the session has ended. -/
def LiveError.isEnd : LiveError → Bool
  | streamClosed | sessionClosed => true
  | _ => false

/-- Whether an error is about what was received: the gateway closed the connection, or what
it sent cannot be decoded or does not fit into the buffer. -/
def LiveError.isOfStream : LiveError → Bool
  | streamClosed | format _ | configuration _ => true
  | _ => false

/-- Whether an event is no failure and comes from the gateway. -/
def LinkEvent.isPlain : LinkEvent → Bool
  | arrival _ | timeout | closed => true
  | _ => false

namespace Link

/-- The connection itself is shut down once where the link is shut down, and otherwise
never. -/
def IsCounted (link : Link) : Prop := link.shutdowns = link.isShutDown.toNat

theorem IsCounted.shutdowns_le {link : Link} (counted : link.IsCounted) :
    link.shutdowns ≤ 1 :=
  counted ▸ Bool.toNat_le _

/-- What time does to a link. -/
structure Ages (before after : Link) : Prop where
  shutDown : before.isShutDown = true → after.isShutDown = true
  counted : before.IsCounted → after.IsCounted
  unlimited : before.writesLeft? = none → after.writesLeft? = none
  closeFailure?_eq : after.closeFailure? = before.closeFailure?

namespace Ages

variable {before middle after : Link}

theorem of_eq (shutDown : after.isShutDown = before.isShutDown)
    (shutdowns : after.shutdowns = before.shutdowns)
    (writesLeft? : after.writesLeft? = before.writesLeft?)
    (closeFailure? : after.closeFailure? = before.closeFailure?) : before.Ages after where
  shutDown was := shutDown.trans was
  counted was := by rw [IsCounted, shutdowns, shutDown, was]
  unlimited was := writesLeft?.trans was
  closeFailure?_eq := closeFailure?

theorem refl (link : Link) : link.Ages link := of_eq rfl rfl rfl rfl

theorem trans (one : before.Ages middle) (two : middle.Ages after) : before.Ages after where
  shutDown was := two.shutDown (one.shutDown was)
  counted was := two.counted (one.counted was)
  unlimited was := two.unlimited (one.unlimited was)
  closeFailure?_eq := two.closeFailure?_eq.trans one.closeFailure?_eq

end Ages

variable (link : Link)

theorem isShutDown_close : link.close.2.isShutDown = true := by
  unfold close
  split
  next shut => exact shut
  next => rfl

theorem ages_close : link.Ages link.close.2 := by
  unfold close
  split
  · exact .refl link
  next isOpen =>
    constructor
    · intro was
      rfl
    · intro counted
      simpa [IsCounted, isOpen] using counted
    · exact id
    · rfl

/-- Two links on which the same was written, read and left to read. -/
structure SameTraffic (before after : Link) : Prop where
  sent_eq : after.sent = before.sent
  events_eq : after.events = before.events
  waits_eq : after.waits = before.waits

theorem sameTraffic_close : link.SameTraffic link.close.2 := by
  unfold close
  split <;> exact ⟨rfl, rfl, rfl⟩

theorem isShutDown_stopFromOutside : link.stopFromOutside.isShutDown = true :=
  link.isShutDown_close

theorem ages_stopFromOutside : link.Ages link.stopFromOutside :=
  link.ages_close.trans (.of_eq rfl rfl rfl rfl)

theorem sameTraffic_stopFromOutside : link.SameTraffic link.stopFromOutside :=
  ⟨link.sameTraffic_close.sent_eq, link.sameTraffic_close.events_eq,
    link.sameTraffic_close.waits_eq⟩

theorem ages_tick : link.Ages link.tick := by
  unfold tick
  split
  · exact .refl link
  · exact link.ages_stopFromOutside
  · exact .of_eq rfl rfl rfl rfl

theorem sameTraffic_tick : link.SameTraffic link.tick := by
  unfold tick
  split
  · exact ⟨rfl, rfl, rfl⟩
  · exact link.sameTraffic_stopFromOutside
  · exact ⟨rfl, rfl, rfl⟩

/-- A link that nobody shuts down, neither by now nor while it is read. -/
structure IsUndisturbed (link : Link) : Prop where
  isOpen : link.isShutDown = false
  undisturbed : link.stopAfter? = none
  noSilence : .silence ∉ link.events

theorem IsUndisturbed.tick_eq {link : Link} (undisturbed : link.IsUndisturbed) :
    link.tick = link := by
  simp [tick, undisturbed.undisturbed]

/-- A link on which nothing fails: bytes arrive and reads may time out until the gateway
closes it, nobody shuts it down, and everything can be written. -/
structure IsSmooth (link : Link) : Prop extends link.IsUndisturbed where
  plain : ∀ event ∈ link.events, event.isPlain = true
  unlimited : link.writesLeft? = none

/-- Nothing happens to a link but that events are met. -/
structure Meets (before after : Link) : Prop where
  events : ∀ event ∈ after.events, event ∈ before.events ∨ ∃ bytes, event = .arrival bytes
  isShutDown_eq : after.isShutDown = before.isShutDown
  stopAfter?_eq : after.stopAfter? = before.stopAfter?
  writesLeft?_eq : after.writesLeft? = before.writesLeft?

namespace Meets

variable {before middle after : Link}

/-- No event is new. -/
theorem of_subset (subset : after.events ⊆ before.events)
    (isShutDown : after.isShutDown = before.isShutDown)
    (stopAfter? : after.stopAfter? = before.stopAfter?)
    (writesLeft? : after.writesLeft? = before.writesLeft?) : before.Meets after :=
  ⟨fun _ found => .inl (subset found), isShutDown, stopAfter?, writesLeft?⟩

theorem refl (link : Link) : link.Meets link := of_subset (List.Subset.refl _) rfl rfl rfl

theorem trans (one : before.Meets middle) (two : middle.Meets after) : before.Meets after where
  events event found := (two.events event found).elim (one.events event) .inr
  isShutDown_eq := two.isShutDown_eq.trans one.isShutDown_eq
  stopAfter?_eq := two.stopAfter?_eq.trans one.stopAfter?_eq
  writesLeft?_eq := two.writesLeft?_eq.trans one.writesLeft?_eq

theorem undisturbed (meets : before.Meets after) (was : before.IsUndisturbed) :
    after.IsUndisturbed where
  isOpen := meets.isShutDown_eq.trans was.isOpen
  undisturbed := meets.stopAfter?_eq.trans was.undisturbed
  noSilence found := (meets.events _ found).elim was.noSilence nofun

theorem smooth (meets : before.Meets after) (was : before.IsSmooth) : after.IsSmooth where
  toIsUndisturbed := meets.undisturbed was.toIsUndisturbed
  plain event found := by
    obtain old | ⟨bytes, rfl⟩ := meets.events event found
    · exact was.plain event old
    · rfl
  unlimited := meets.writesLeft?_eq.trans was.unlimited

end Meets

/-- A write that succeeds is written whole, and one that fails not at all. -/
theorem write_effect (bytes : Bytes) :
    link.Ages (link.write bytes).2 ∧
      (link.write bytes).2.sent = link.sent ++
        match (link.write bytes).1 with
        | .ok () => [bytes]
        | .error _ => [] := by
  have sent := link.sameTraffic_tick.sent_eq
  unfold write
  dsimp only
  split
  · exact ⟨link.ages_tick, by rw [sent, List.append_nil]⟩
  split
  · exact ⟨link.ages_tick.trans (.of_eq rfl rfl rfl rfl), by rw [sent]⟩
  · exact ⟨link.ages_tick, by rw [sent, List.append_nil]⟩
  next left limited =>
    have counts : link.tick.Ages
        { link.tick with sent := link.tick.sent ++ [bytes], writesLeft? := some left } :=
      ⟨id, id, fun unlimited => (nomatch limited.symm.trans unlimited), rfl⟩
    exact ⟨link.ages_tick.trans counts, by rw [sent]⟩

/-- Everything can be written on a link on which nothing fails. -/
theorem smooth_write (bytes : Bytes) (smooth : link.IsSmooth) :
    (link.write bytes).1 = .ok () ∧ (link.write bytes).2.IsSmooth := by
  have isOpen : ¬link.isShutDown = true := ne_true_of_eq_false smooth.isOpen
  have written : link.write bytes = (.ok (), { link with sent := link.sent ++ [bytes] }) := by
    simp only [write, smooth.toIsUndisturbed.tick_eq, if_neg isOpen, smooth.unlimited]
  rw [written]
  exact ⟨rfl, ⟨smooth.isOpen, smooth.undisturbed, smooth.noSilence⟩, smooth.plain,
    smooth.unlimited⟩

theorem undisturbed_write (bytes : Bytes) (undisturbed : link.IsUndisturbed) :
    (link.write bytes).2.IsUndisturbed := by
  simp only [write, undisturbed.tick_eq]
  split
  · exact undisturbed
  split <;> exact ⟨undisturbed.isOpen, undisturbed.undisturbed, undisturbed.noSilence⟩

/-- What reading does to a link. -/
structure Reads (before after : Link) : Prop where
  ages : before.Ages after
  sent_eq : after.sent = before.sent
  budget_le : after.budget ≤ before.budget
  meets : before.IsUndisturbed → before.Meets after

namespace Reads

variable {before middle after : Link}

theorem undisturbed (reads : before.Reads after) (was : before.IsUndisturbed) :
    after.IsUndisturbed :=
  (reads.meets was).undisturbed was

theorem smooth (reads : before.Reads after) (was : before.IsSmooth) : after.IsSmooth :=
  (reads.meets was.toIsUndisturbed).smooth was

theorem refl (link : Link) : link.Reads link :=
  ⟨.refl link, rfl, Nat.le_refl _, fun _ => .refl link⟩

theorem trans (one : before.Reads middle) (two : middle.Reads after) : before.Reads after where
  ages := one.ages.trans two.ages
  sent_eq := two.sent_eq.trans one.sent_eq
  budget_le := Nat.le_trans two.budget_le one.budget_le
  meets was := (one.meets was).trans (two.meets (one.undisturbed was))

end Reads

theorem budget_eq_of_events {before after : Link} (events : after.events = before.events) :
    after.budget = before.budget := by
  rw [budget, budget, events]

theorem reads_tick : link.Reads link.tick where
  ages := link.ages_tick
  sent_eq := link.sameTraffic_tick.sent_eq
  budget_le := Nat.le_of_eq (budget_eq_of_events link.sameTraffic_tick.events_eq)
  meets was := was.tick_eq.symm ▸ .refl link

theorem reads_waits (waits : List (Option Nat)) : link.Reads { link with waits } :=
  ⟨.of_eq rfl rfl rfl rfl, rfl, Nat.le_refl _,
    fun _ => .of_subset (List.Subset.refl _) rfl rfl rfl⟩

/-- The first event counts as much as it weighs. -/
theorem budget_of_cons {event : LinkEvent} {later : List LinkEvent}
    (events : link.events = event :: later) :
    link.budget = event.weight + { link with events := later }.budget := by
  rw [budget, events, List.foldr_cons, Nat.add_assoc]
  rfl

/-- Meeting the first event takes it away. -/
theorem reads_later {event : LinkEvent} {later : List LinkEvent}
    (events : link.events = event :: later) : link.Reads { link with events := later } where
  ages := .of_eq rfl rfl rfl rfl
  sent_eq := rfl
  budget_le := by
    rw [link.budget_of_cons events]
    exact Nat.le_add_left _ _
  meets _ := .of_subset (events ▸ List.subset_cons_self event later) rfl rfl rfl

theorem reads_meet (room : Nat) : link.Reads (link.meet room).2 := by
  cases events : link.events with
  | nil =>
      simp only [meet, events]
      exact .refl link
  | cons event later =>
      have met := link.reads_later events
      cases event with
      | silence =>
          simp only [meet, events]
          exact {
            ages := met.ages.trans (ages_stopFromOutside _)
            sent_eq := (sameTraffic_stopFromOutside _).sent_eq
            budget_le := Nat.le_trans (Nat.le_of_eq (budget_eq_of_events
              (sameTraffic_stopFromOutside _).events_eq)) met.budget_le
            meets := fun was => absurd (events ▸ List.mem_cons_self) was.noSilence }
      | arrival bytes =>
          simp only [meet, events]
          split
          · exact met
          · refine ⟨.of_eq rfl rfl rfl rfl, rfl, ?_, fun _ => ⟨?_, rfl, rfl, rfl⟩⟩
            · simp only [budget, events, List.foldr_cons, LinkEvent.weight, List.length_drop]
              omega
            · intro event found
              rw [List.mem_cons] at found
              exact found.symm.imp (events ▸ List.mem_cons_of_mem _) fun shorter => ⟨_, shorter⟩
      | timeout | closed | failure _ | answer _ =>
          simp only [meet, events]
          exact met

theorem reads_read (room : Nat) (timeout : Option Nat) :
    link.Reads (link.read room timeout).2 := by
  unfold read
  dsimp only
  split
  · exact link.reads_tick
  · exact link.reads_tick.trans ((link.tick.reads_waits _).trans (reads_meet _ room))

theorem reads_readExactWithin (bound want : Nat) :
    link.Reads (readExactWithin bound want link).2 := by
  induction bound generalizing link want with
  | zero => cases want <;> exact .refl link
  | succ bound ih =>
      cases want with
      | zero => exact .refl link
      | succ want =>
          have first := link.reads_read (want + 1) none
          rw [readExactWithin]
          generalize link.read (want + 1) none = outcome at first
          obtain ⟨result, middle⟩ := outcome
          have goOn (want : Nat) : link.Reads (readExactWithin bound want middle).2 :=
            first.trans (ih middle _)
          cases result with
          | error failure => exact first
          | ok found =>
              obtain ⟨bytes, status⟩ := found
              cases status with
              | closed => exact first
              | timeout => exact goOn _
              | ready =>
                  have rest := goOn (want + 1 - bytes.length)
                  dsimp only
                  generalize readExactWithin bound (want + 1 - bytes.length) middle =
                    outcome at rest
                  obtain ⟨result, after⟩ := outcome
                  cases result <;> exact rest

/-- Nothing fails in reading from a link on which nothing fails. -/
theorem read_of_smooth (smooth : link.IsSmooth) (room : Nat) (timeout : Option Nat) :
    ∃ result, (link.read room timeout).1 = .ok result := by
  have isOpen : ¬link.isShutDown = true := ne_true_of_eq_false smooth.isOpen
  simp only [read, smooth.toIsUndisturbed.tick_eq, if_neg isOpen, meet]
  cases events : link.events with
  | nil => exact ⟨_, rfl⟩
  | cons event later =>
      have plain := smooth.plain event (events ▸ List.mem_cons_self)
      cases event with
      | arrival | timeout | closed => exact ⟨_, rfl⟩
      | silence | failure | answer => cases plain

/-- Where nothing fails, bytes are missing only because the connection is closed. -/
theorem readExactWithin_of_smooth (bound want : Nat) (smooth : link.IsSmooth)
    {failure : IoFailure} (failed : (readExactWithin bound want link).1 = .error failure) :
    failure = .unexpectedEnd := by
  induction bound generalizing link want with
  | zero =>
      cases want <;> cases failed
      rfl
  | succ bound ih =>
      cases want with
      | zero => cases failed
      | succ want =>
          obtain ⟨⟨bytes, status⟩, found⟩ := link.read_of_smooth smooth (want + 1) none
          have smoothAfter := (link.reads_read (want + 1) none).smooth smooth
          rw [readExactWithin] at failed
          generalize link.read (want + 1) none = outcome at found smoothAfter failed
          obtain ⟨result, middle⟩ := outcome
          cases found
          cases status with
          | closed =>
              cases failed
              rfl
          | timeout => exact ih _ _ smoothAfter failed
          | ready =>
              have rest := ih middle (want + 1 - bytes.length) smoothAfter
              dsimp only at failed
              generalize readExactWithin bound (want + 1 - bytes.length) middle = outcome
                at rest failed
              obtain ⟨result, after⟩ := outcome
              cases result with
              | ok more => cases failed
              | error other =>
                  cases failed
                  exact rest rfl

theorem readExact_of_smooth (want : Nat) (smooth : link.IsSmooth) (failure : IoFailure)
    (failed : (link.readExact want).1 = .error failure) : failure = .unexpectedEnd :=
  link.readExactWithin_of_smooth _ want smooth failed

theorem reads_readExact (want : Nat) : link.Reads (link.readExact want).2 :=
  link.reads_readExactWithin _ want

end Link

namespace Channel

/-- What receiving does to a channel: nothing is written, the buffer keeps its size, and no
error says that the session has ended. -/
structure Receives (before : Channel) (failure? : Option LiveError) (after : Channel) :
    Prop where
  link : before.link.Reads after.link
  capacity_eq : after.buffer.capacity = before.buffer.capacity
  isEnd_eq : ∀ error ∈ failure?, error.isEnd = false

theorem isRule_receives : IsRule Receives where
  refl channel := ⟨.refl channel.link, rfl, nofun⟩
  trans one two :=
    ⟨one.link.trans two.link, two.capacity_eq.trans one.capacity_eq, two.isEnd_eq⟩

theorem receives_of_error {error : LiveError} (other : error.isEnd = false) (channel : Channel) :
    channel.Receives (some error) channel :=
  ⟨.refl channel.link, rfl, by rintro _ ⟨⟩; exact other⟩

/-- What sending a text does to a channel: it is written whole, or the error says that it
was not. -/
structure Sends (text : String) (before : Channel) (failure? : Option LiveError)
    (after : Channel) : Prop where
  ages : before.link.Ages after.link
  undisturbed : before.link.IsUndisturbed → after.link.IsUndisturbed
  smooth : before.link.IsSmooth → failure? = none ∧ after.link.IsSmooth
  buffer_eq : after.buffer = before.buffer
  isEnd_eq : ∀ error ∈ failure?, error.isEnd = false
  sent_eq : after.link.sent =
    before.link.sent ++ if failure? = none then [textBytes text] else []

theorem obeys_send (activity : LinkActivity) (text : String) :
    Obeys (Sends text) (send activity text) := by
  intro channel
  have written := channel.link.write_effect (textBytes text)
  have undisturbed := channel.link.undisturbed_write (textBytes text)
  have smooth := channel.link.smooth_write (textBytes text)
  rw [send]
  generalize channel.link.write (textBytes text) = outcome at written undisturbed smooth
  obtain ⟨result, link⟩ := outcome
  obtain ⟨ages, sent⟩ := written
  cases result with
  | error failure =>
      have never : ¬channel.link.IsSmooth := fun was => nomatch (smooth was).1
      exact ⟨ages, undisturbed, fun was => absurd was never, rfl, by rintro _ ⟨⟩; rfl, sent⟩
  | ok _ => exact ⟨ages, undisturbed, fun was => ⟨rfl, (smooth was).2⟩, rfl, nofun, sent⟩

/-- Where nothing fails, there may only be no room to read. -/
theorem isOfStream_of_fill {channel : Channel} {timeout : Option Nat} {error : LiveError}
    (failed : (fill timeout channel).1 = .error error) (smooth : channel.link.IsSmooth) :
    error.isOfStream = true := by
  unfold fill at failed
  dsimp only at failed
  split at failed
  · cases failed
    rfl
  obtain ⟨result, found⟩ :=
    channel.link.read_of_smooth smooth channel.buffer.compact.spareLength timeout
  generalize channel.link.read channel.buffer.compact.spareLength timeout = outcome
    at found failed
  obtain ⟨_, link⟩ := outcome
  cases found
  cases failed

theorem obeys_fill (timeout : Option Nat) : Obeys Receives (fill timeout) := by
  intro channel
  have read := channel.link.reads_read channel.buffer.compact.spareLength timeout
  have capacity := channel.buffer.capacity_compact
  unfold fill
  dsimp only
  split
  · exact ⟨.refl channel.link, capacity, by rintro _ ⟨⟩; rfl⟩
  generalize channel.link.read channel.buffer.compact.spareLength timeout = outcome at read
  obtain ⟨result, link⟩ := outcome
  cases result with
  | error failure => exact ⟨read, capacity, by rintro _ ⟨⟩; rfl⟩
  | ok result => exact ⟨read, capacity, nofun⟩

theorem capacity_realign (buffer : ByteBuffer) :
    (realign buffer).capacity = buffer.capacity := by
  unfold realign
  split
  · rfl
  · exact buffer.capacity_compact

theorem obeys_refuse {α : Type} (fault : ProtocolFault) :
    Obeys Receives (refuse fault : ChannelStep α) :=
  .get_bind fun channel => receives_of_error rfl channel

theorem obeys_takeLine (line : HandshakeLine) (bytes : Bytes) :
    Obeys Receives (takeLine line bytes) := by
  unfold takeLine
  split
  · exact .throw (receives_of_error rfl)
  · exact .bind isRule_receives (.modify fun channel => ⟨.refl channel.link, rfl, nofun⟩)
      fun _ => .pure isRule_receives _

theorem obeys_readLineWithin (line : HandshakeLine) (bound searched : Nat) :
    Obeys Receives (readLineWithin line bound searched) := by
  induction bound generalizing searched with
  | zero => exact obeys_refuse _
  | succ bound ih =>
      have readOn (searched : Nat) : Obeys Receives (do
          let result ← fill none
          if result.status = .closed then refuse (.closedWhileReading line)
          readLineWithin line bound searched) := by
        refine .bind isRule_receives (obeys_fill none) fun result => ?_
        dsimp only
        split
        · exact .bind isRule_receives (obeys_refuse _) fun _ => ih searched
        · exact ih searched
      unfold readLineWithin
      refine .bind isRule_receives (.get isRule_receives) fun channel => ?_
      split
      · exact obeys_takeLine line _
      dsimp only
      split
      · exact .bind isRule_receives (obeys_refuse _) fun _ => readOn _
      · exact readOn _

theorem obeys_readLine (line : HandshakeLine) : Obeys Receives (readLine line) :=
  .bind isRule_receives (.get isRule_receives) fun _ => obeys_readLineWithin line _ 0

end Channel

/-- The state after a step: only the end of the session changes it. -/
def stateAfter (state : SessionState) : Option LiveError → SessionState
  | none => state
  | some error => if error.isEnd then .stopped else state

namespace Session

/-- What receiving does to a session: nothing is written, the buffer keeps its size, and the
session is stopped where the error says that it has ended.  It is not closed by this side
where nobody shuts the link down, and where nothing fails on the link, errors are about what
was received. -/
structure Receives (before : Session) (failure? : Option LiveError) (after : Session) :
    Prop where
  link : before.channel.link.Reads after.channel.link
  capacity_eq : after.channel.buffer.capacity = before.channel.buffer.capacity
  settings_eq : after.settings = before.settings
  state_eq : after.state = stateAfter before.state failure?
  notClosed : before.channel.link.IsUndisturbed → failure? ≠ some .sessionClosed
  isOfStream_eq : before.channel.link.IsSmooth → ∀ error ∈ failure?, error.isOfStream = true

/-- A step that succeeds, and only reads from the link. -/
theorem Receives.of_ok {before after : Session}
    (link : before.channel.link.Reads after.channel.link)
    (capacity : after.channel.buffer.capacity = before.channel.buffer.capacity)
    (settings : after.settings = before.settings) (state : after.state = before.state) :
    before.Receives none after :=
  ⟨link, capacity, settings, state, nofun, fun _ => nofun⟩

theorem isRule_receives : IsRule Receives where
  refl session := .of_ok (.refl session.channel.link) rfl rfl rfl
  trans one two := {
    link := one.link.trans two.link
    capacity_eq := two.capacity_eq.trans one.capacity_eq
    settings_eq := two.settings_eq.trans one.settings_eq
    state_eq := by rw [two.state_eq, one.state_eq]; rfl
    notClosed := fun was => two.notClosed (one.link.undisturbed was)
    isOfStream_eq := fun was => two.isOfStream_eq (one.link.smooth was) }

theorem receives_of_error {session : Session} {error : LiveError} (other : error.isEnd = false)
    (isOfStream : session.channel.link.IsSmooth → error.isOfStream = true) :
    session.Receives (some error) session where
  link := .refl session.channel.link
  capacity_eq := rfl
  settings_eq := rfl
  state_eq := by simp [stateAfter, other]
  notClosed := by
    rintro - ⟨⟩
    cases other
  isOfStream_eq was := by
    rintro _ ⟨⟩
    exact isOfStream was

theorem obeys_onFill (timeout : Option Nat) :
    Obeys Receives (onChannel (Channel.fill timeout)) := by
  intro session
  cases ran : Channel.fill timeout session.channel with
  | mk result channel =>
      have received := (Channel.obeys_fill timeout).of_run ran
      simp only [onChannel, ran]
      cases result with
      | ok value => exact .of_ok received.link received.capacity_eq rfl rfl
      | error error =>
          have kept : session.Receives (some error) session :=
            receives_of_error (received.isEnd_eq error rfl)
              (Channel.isOfStream_of_fill (congrArg Prod.fst ran))
          exact ⟨received.link, received.capacity_eq, rfl, kept.state_eq, kept.notClosed,
            kept.isOfStream_eq⟩

theorem obeys_decoded {α : Type} (result : Except Error α) :
    Obeys Receives (decoded result) := by
  cases result with
  | ok value => exact .pure isRule_receives value
  | error error => exact .throw fun _ => receives_of_error rfl fun _ => rfl

theorem obeys_unread : Obeys Receives unread := fun session => isRule_receives.refl session

theorem obeys_budget : Obeys Receives budget := fun session => isRule_receives.refl session

theorem obeys_consume (count : Nat) : Obeys Receives (consume count) :=
  fun session => .of_ok (.refl session.channel.link) rfl rfl rfl

/-- The end of the connection stops the session, and the error says so. -/
theorem obeys_closed {α : Type} : Obeys Receives (closed : SessionStep α) := by
  intro session
  have looked : onChannel Channel.checkShutDown session.halt =
      (.ok session.channel.link.tick.isShutDown,
        { session.halt with
          channel := ⟨session.channel.link.tick, session.halt.channel.buffer⟩ }) :=
    rfl
  rw [closed, bind_of_ok (modify_run _ _), bind_of_ok looked]
  cases shut : session.channel.link.tick.isShutDown with
  | true =>
      have never : ¬session.channel.link.IsUndisturbed := by
        intro undisturbed
        rw [undisturbed.tick_eq, undisturbed.isOpen] at shut
        cases shut
      exact ⟨session.channel.link.reads_tick, rfl, rfl, rfl, fun was => absurd was never,
        fun was => absurd was.toIsUndisturbed never⟩
  | false =>
      exact ⟨session.channel.link.reads_tick, rfl, rfl, rfl, nofun, fun _ => by rintro _ ⟨⟩; rfl⟩

theorem obeys_fill (timeout : Option Nat) : Obeys Receives (fill timeout) := by
  refine .bind isRule_receives (obeys_onFill timeout) fun result => ?_
  split
  · exact .pure isRule_receives true
  · exact .pure isRule_receives false
  · exact obeys_closed

theorem obeys_awaitWithin (count : Nat) (timeout : Option Nat) (bound : Nat) :
    Obeys Receives (awaitWithin count timeout bound) := by
  induction bound with
  | zero => exact .pure isRule_receives false
  | succ bound ih =>
      refine .bind isRule_receives obeys_unread fun bytes => ?_
      split
      · exact .pure isRule_receives true
      refine .bind isRule_receives (obeys_fill timeout) fun arrived => ?_
      split
      · exact ih
      · exact .pure isRule_receives false

theorem obeys_await (count : Nat) (timeout : Option Nat) :
    Obeys Receives (await count timeout) :=
  .bind isRule_receives obeys_budget fun _ => obeys_awaitWithin count timeout _

theorem obeys_awaitAllWithin (count bound : Nat) :
    Obeys Receives (awaitAllWithin count bound) := by
  induction bound with
  | zero => exact obeys_closed
  | succ bound ih =>
      refine .bind isRule_receives obeys_unread fun bytes => ?_
      split
      · exact .pure isRule_receives ()
      · exact .bind isRule_receives (obeys_fill none) fun _ => ih

theorem obeys_receive (count : Nat) : Obeys Receives (receive count) :=
  .bind isRule_receives obeys_budget fun _ =>
    .bind isRule_receives (obeys_awaitAllWithin count _) fun _ =>
      .bind isRule_receives obeys_unread fun _ => .pure isRule_receives _

theorem obeys_receivePastBuffer (count : Nat) : Obeys Receives (receivePastBuffer count) := by
  refine .bind isRule_receives obeys_unread fun front => ?_
  refine .bind isRule_receives
    (.modify fun session => .of_ok (.refl session.channel.link) rfl rfl rfl) fun _ => ?_
  refine .get_bind fun session => ?_
  have read := session.channel.link.reads_readExact (count - front.length)
  have smooth := session.channel.link.readExact_of_smooth (count - front.length)
  generalize session.channel.link.readExact (count - front.length) = outcome at read smooth
  obtain ⟨result, link⟩ := outcome
  dsimp only
  have moved : session.Receives none
      { session with channel := { session.channel with link } } := .of_ok read rfl rfl rfl
  rw [bind_of_ok (set_run _ _)]
  split
  · exact isRule_receives.trans moved (Obeys.pure isRule_receives _ _)
  · exact isRule_receives.trans moved (obeys_closed _)
  next failure other =>
    have failed : session.Receives (some (.link failure .readingMetadata)) session :=
      receives_of_error rfl fun was => absurd (smooth was failure rfl) other
    exact ⟨read, rfl, rfl, failed.state_eq, failed.notClosed, failed.isOfStream_eq⟩

theorem obeys_receiveMetadata (version : UInt8) (length : Nat) :
    Obeys Receives (receiveMetadata version length) := by
  refine .bind isRule_receives (.get isRule_receives) fun session => ?_
  split
  · exact .bind isRule_receives (obeys_receive length) fun _ =>
      .bind isRule_receives (obeys_decoded _) fun _ =>
        .bind isRule_receives (obeys_consume length) fun _ => .pure isRule_receives _
  · exact .bind isRule_receives (obeys_receivePastBuffer length) fun _ => obeys_decoded _

theorem obeys_takeFrame (size : Nat) : Obeys Receives (takeFrame size) := by
  refine .get_bind fun session => ?_
  dsimp only
  have capacity : ((Channel.realign session.channel.buffer).take size).2.capacity =
      session.channel.buffer.capacity := Channel.capacity_realign _
  generalize (Channel.realign session.channel.buffer).take size = taken at capacity
  obtain ⟨bytes, rest⟩ := taken
  have moved : session.Receives none
      { session with channel := { session.channel with buffer := rest } } :=
    .of_ok (.refl session.channel.link) capacity rfl rfl
  rw [bind_of_ok (set_run _ _)]
  refine isRule_receives.trans moved ?_
  refine Obeys.bind isRule_receives (obeys_decoded _) (fun found => ?_) _
  exact .bind isRule_receives
    (.modify fun session => .of_ok (.refl session.channel.link) rfl rfl rfl)
    fun _ => .pure isRule_receives _

end Session

end TickWire
