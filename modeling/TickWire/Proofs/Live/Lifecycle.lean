import TickWire.Proofs.Live.Handshake
import TickWire.Proofs.Live.Requests

/-!
# The life of a session

What a client does to a session, and what shutting its link down from outside does, in
any order, over any link.  A session moves through its states in one direction, it does
only what its state allows, and once it has ended it stays so.
-/

namespace TickWire

/-- What can be done to a session. -/
inductive SessionAction
  | request (request : Request)
  /-- The client stops the session. -/
  | stop
  /-- The link is shut down from outside. -/
  | shutDown

namespace SessionAction

/-- The session after an action. -/
def perform : SessionAction → Session → Session
  | request asked, session => (asked.perform session).2
  | stop, session => session.stop.2
  | shutDown, session => session.shutDown.2

/-- An action after which the session has ended: it is stopped, its link is shut down
before the action is over, or a request says so. -/
inductive Ends (session : Session) : SessionAction → Prop where
  | stop : Ends session .stop
  | shutDown {action : SessionAction}
      (shut : (action.perform session).channel.link.isShutDown = true) : Ends session action
  | reported {asked : Request} {error : LiveError}
      (failed : (asked.perform session).1 = .error error) (isEnd : error.isEnd = true) :
      Ends session (.request asked)

/-- The state after an action. -/
inductive Moves (session : Session) : SessionAction → SessionState → Prop where
  | stays {action : SessionAction} {state : SessionState} (was : session.currentState = state) :
      Moves session action state
  | stops {action : SessionAction} (ends : action.Ends session) : Moves session action .stopped
  | subscribes {subscription : Subscription} {reply : Reply}
      (was : session.currentState = .idle)
      (accepted : ((Request.subscribe subscription).perform session).1 = .ok reply) :
      Moves session (.request (.subscribe subscription)) .subscribed
  | starts {reply : Reply} (was : session.currentState = .subscribed)
      (accepted : (Request.start.perform session).1 = .ok reply) :
      Moves session (.request .start) .streaming

end SessionAction

namespace Session

/-- The session after actions in order. -/
def performAll (session : Session) (actions : List SessionAction) : Session :=
  actions.foldl (fun session action => action.perform session) session

/-- The same is in the buffer, and nothing was written or read in between. -/
structure SameChannel (before after : Session) : Prop where
  buffer_eq : after.channel.buffer = before.channel.buffer
  traffic : before.channel.link.SameTraffic after.channel.link

/-- A session that has ended answers nothing any more. -/
structure IsOver (session : Session) : Prop where
  currentState_eq : session.currentState = .stopped
  answer_eq : ∀ request : Request, ∃ after : Session,
    request.perform session = (.error .sessionClosed, after) ∧ session.SameChannel after

/-- A request that the state does not allow is refused, unless the link is shut down from
outside just then. -/
structure IsRefused (session : Session) (request : Request) : Prop where
  answer_eq : (request.perform session).1 = .error
    (if session.channel.link.tick.isShutDown then .sessionClosed
      else .invalidState request.operation session.currentState)
  currentState_eq : (request.perform session).2.currentState =
    if session.channel.link.tick.isShutDown then .stopped else session.currentState
  same : session.SameChannel (request.perform session).2

/-- What holds of a session wherever it stands. -/
structure FollowsLifecycle (session : Session) : Prop where
  afterEnd : ∀ action : SessionAction, action.Ends session →
    ∀ later : List SessionAction, ((action.perform session).performAll later).IsOver
  refused : ∀ request : Request, session.currentState ≠ .stopped →
    session.currentState ∉ request.allowed → session.IsRefused request
  moves : ∀ action : SessionAction, action.Moves session (action.perform session).currentState
  /-- A request succeeds only where it is allowed, and leads to its goal. -/
  accepted : ∀ (request : Request) (reply : Reply) (after : Session),
    request.perform session = (.ok reply, after) →
      session.currentState ∈ request.allowed ∧
      after.currentState = if after.channel.link.isShutDown then .stopped else request.goal
  /-- A subscription that fails changes nothing. -/
  unsubscribed : ∀ (subscription : Subscription) (error : LiveError) (after : Session),
    (Request.subscribe subscription).perform session = (.error error, after) →
      after.currentState =
        if after.channel.link.isShutDown then .stopped else session.currentState
  shutdowns_le : session.channel.link.shutdowns ≤ 1

variable {session : Session}

theorem currentState_eq_stopped (ended : session.state = .stopped) :
    session.currentState = .stopped := by
  rw [currentState, ended, ite_self]

theorem currentState_eq_stopped_of_shutDown (shut : session.channel.link.isShutDown = true) :
    session.currentState = .stopped :=
  if_pos shut

theorem stop_effect (session : Session) :
    session.stop.2.state = .stopped ∧ session.stop.2.settings = session.settings ∧
      session.channel.link.Ages session.stop.2.channel.link ∧
      session.stop.2.channel.link.sent = session.channel.link.sent ∧
      session.stop.2.channel.buffer.capacity = session.channel.buffer.capacity := by
  rw [stop, bind_of_ok (get_run _)]
  split
  next stopped => exact ⟨stopped, rfl, .refl _, rfl, rfl⟩
  next =>
    rw [bind_of_ok (modify_run _ _), onChannel, Channel.close]
    have ages := session.halt.channel.link.ages_close
    have sent := session.halt.channel.link.sameTraffic_close.sent_eq
    generalize session.halt.channel.link.close = outcome at ages sent
    obtain ⟨result, link⟩ := outcome
    cases result <;> exact ⟨rfl, rfl, ages, sent, rfl⟩

theorem stop_of_stopped (stopped : session.state = .stopped) :
    session.stop = (.ok (), session) := by
  rw [stop, bind_of_ok (get_run _), if_pos stopped]
  rfl

/-- Stopping succeeds where the link can be shut down. -/
theorem stop_ok (closes : session.channel.link.closeFailure? = none) :
    session.stop.1 = .ok () := by
  by_cases stopped : session.state = .stopped
  · rw [stop_of_stopped stopped]
  · rw [stop, bind_of_ok (get_run _), if_neg stopped, bind_of_ok (modify_run _ _)]
    have closesHalted : session.halt.channel.link.closeFailure? = none := closes
    by_cases shut : session.halt.channel.link.isShutDown = true
    · simp [onChannel, Channel.close, Link.close, shut]
    · simp [onChannel, Channel.close, Link.close, shut, closesHalted]

theorem sameChannel_looked (session : Session) : session.SameChannel session.looked :=
  ⟨rfl, session.channel.link.sameTraffic_tick⟩

/-- A request that finds the session stopped. -/
theorem perform_of_stopped (stopped : session.looked.state = .stopped) (request : Request) :
    request.perform session = (.error .sessionClosed, session.looked) := by
  have answer := request.answer session
  generalize request.perform session = outcome at answer
  cases answer with
  | ended _ => rfl
  | refused running _ => exact absurd stopped running
  | handled fit _ => exact absurd (stopped ▸ fit) request.stopped_notMem_allowed

theorem isOver_of_stopped (ended : session.currentState = .stopped) : session.IsOver where
  currentState_eq := ended
  answer_eq request :=
    ⟨session.looked, perform_of_stopped (session.state_looked_of_stopped ended) request,
      session.sameChannel_looked⟩

end Session

/-- What says that the session has ended leaves it stopped. -/
theorem Request.state_eq_stopped_of_end {request : Request} {session after : Session}
    {error : LiveError} (failed : request.perform session = (.error error, after))
    (isEnd : error.isEnd = true) : after.state = .stopped := by
  have answer := request.answer session
  rw [failed] at answer
  cases answer with
  | ended stopped => exact stopped
  | refused _ _ => cases isEnd
  | handled _ does =>
      rw [does.state_eq]
      simp [stateAfter, isEnd]

namespace SessionAction

variable {session : Session} {action : SessionAction}

theorem currentState_perform_of_stopped (ended : session.currentState = .stopped)
    (action : SessionAction) : (action.perform session).currentState = .stopped := by
  cases action with
  | request request =>
      have stopped := session.state_looked_of_stopped ended
      rw [perform, Session.perform_of_stopped stopped]
      exact session.currentState_looked.trans stopped
  | stop => exact Session.currentState_eq_stopped session.stop_effect.1
  | shutDown =>
      exact Session.currentState_eq_stopped_of_shutDown session.channel.link.isShutDown_close

theorem currentState_performAll_of_stopped (actions : List SessionAction)
    (ended : session.currentState = .stopped) :
    (session.performAll actions).currentState = .stopped := by
  induction actions generalizing session with
  | nil => exact ended
  | cons action later ih => exact ih (currentState_perform_of_stopped ended action)

/-- What ends a session leaves it stopped. -/
theorem Ends.currentState_eq (ends : action.Ends session) :
    (action.perform session).currentState = .stopped := by
  cases ends with
  | stop => exact Session.currentState_eq_stopped session.stop_effect.1
  | shutDown shut => exact Session.currentState_eq_stopped_of_shutDown shut
  | @reported asked error failed isEnd =>
      exact Session.currentState_eq_stopped
        (Request.state_eq_stopped_of_end (Prod.ext failed rfl) isEnd)

end SessionAction

namespace Request

variable {request : Request} {session after : Session} {result : Except LiveError Reply}

/-- The state after a request, unless the link was shut down in the meantime. -/
theorem currentState_of_open (ran : request.perform session = (result, after))
    (isOpen : after.channel.link.isShutDown = false) :
    after.currentState =
      match error? result with
      | none => request.goal
      | some error => stateAfter session.currentState (some error) := by
  have answer := request.answer session
  rw [ran] at answer
  cases answer with
  | ended stopped => exact session.currentState_looked.trans stopped
  | refused _ _ =>
      rw [session.currentState_looked, session.state_looked_of_open isOpen]
      rfl
  | handled _ does =>
      have wasOpen : session.looked.channel.link.isShutDown = false := by
        rw [← Bool.not_eq_true] at isOpen ⊢
        exact fun shut => isOpen (does.ages.shutDown shut)
      have stateNow : after.currentState = after.state := if_neg (ne_true_of_eq_false isOpen)
      rw [stateNow, does.state_eq, session.state_looked_of_open wasOpen]
      cases result <;> rfl

/-- What is allowed in the state that is found is allowed in the state that is seen. -/
theorem currentState_mem_allowed (fit : session.looked.state ∈ request.allowed) :
    session.currentState ∈ request.allowed := by
  have running : session.looked.state ≠ .stopped := fun stopped =>
    request.stopped_notMem_allowed (stopped ▸ fit)
  have isOpen : session.looked.channel.link.isShutDown = false := by
    rw [← Bool.not_eq_true]
    exact fun shut => running (if_pos shut)
  rwa [session.state_looked_of_open isOpen] at fit

/-- Only what the state allows succeeds. -/
theorem mem_allowed_of_ok {reply : Reply} (ran : request.perform session = (.ok reply, after)) :
    session.currentState ∈ request.allowed := by
  have answer := request.answer session
  rw [ran] at answer
  cases answer with
  | handled fit _ => exact currentState_mem_allowed fit

/-- A subscription that fails leaves the state, unless the link was shut down in the
meantime. -/
theorem currentState_of_unsubscribed {subscription : Subscription} {error : LiveError}
    (failed : (subscribe subscription).perform session = (.error error, after))
    (isOpen : after.channel.link.isShutDown = false) :
    after.currentState = session.currentState := by
  have settled := currentState_of_open failed isOpen
  have answer := (subscribe subscription).answer session
  rw [failed] at answer
  cases answer with
  | ended stopped =>
      have stateNow := session.state_looked_of_open isOpen
      rw [session.currentState_looked, stateNow]
  | refused _ _ => exact settled
  | handled _ does =>
      have other := does.isEnd_eq subscription rfl error rfl
      simpa [stateAfter, other] using settled

end Request

namespace Session

variable {session : Session}

/-- A request that finds a state which does not allow it. -/
theorem perform_of_unfit {request : Request} (running : session.looked.state ≠ .stopped)
    (unfit : session.looked.state ∉ request.allowed) :
    request.perform session =
      (.error (.invalidState request.operation session.looked.state), session.looked) := by
  have answer := request.answer session
  generalize request.perform session = outcome at answer
  cases answer with
  | ended stopped => exact absurd stopped running
  | refused _ _ => rfl
  | handled fit _ => exact absurd fit unfit

/-- What the state does not allow is refused. -/
theorem isRefused {request : Request} (running : session.currentState ≠ .stopped)
    (unfit : session.currentState ∉ request.allowed) : session.IsRefused request := by
  cases shut : session.channel.link.tick.isShutDown with
  | true =>
      have stopped : session.looked.state = .stopped := if_pos shut
      have refused := perform_of_stopped stopped request
      refine ⟨?_, ?_, ?_⟩ <;> rw [refused]
      · rw [if_pos shut]
      · rw [if_pos shut, session.currentState_looked, stopped]
      · exact session.sameChannel_looked
  | false =>
      have isOpen := ne_true_of_eq_false shut
      have found := session.state_looked_of_open shut
      have refused := perform_of_unfit (found ▸ running) (found ▸ unfit)
      refine ⟨?_, ?_, ?_⟩ <;> rw [refused]
      · rw [if_neg isOpen, found]
      · rw [if_neg isOpen, session.currentState_looked, found]
      · exact session.sameChannel_looked

/-- What is said of an open link is said of any. -/
theorem currentState_eq_ite {state : SessionState}
    (settled : session.channel.link.isShutDown = false → session.currentState = state) :
    session.currentState = if session.channel.link.isShutDown then .stopped else state := by
  cases shut : session.channel.link.isShutDown with
  | true => exact currentState_eq_stopped_of_shutDown shut
  | false => exact settled shut

/-- A request that succeeds leads to its goal. -/
theorem moves_of_ok {request : Request} {reply : Reply}
    (accepted : (request.perform session).1 = .ok reply)
    (fit : session.currentState ∈ request.allowed) :
    SessionAction.Moves session (.request request) request.goal := by
  cases request with
  | subscribe subscription =>
      simp only [Request.allowed, List.mem_cons, List.not_mem_nil, or_false] at fit
      obtain idle | subscribed := fit
      · exact .subscribes idle accepted
      · exact .stays subscribed
  | start => exact .starts (List.mem_singleton.mp fit) accepted
  | nextRecord timeout => exact .stays (List.mem_singleton.mp fit)

/-- Every action moves the state forward, if at all. -/
theorem moves (session : Session) (action : SessionAction) :
    action.Moves session (action.perform session).currentState := by
  have ended {action : SessionAction} (ends : action.Ends session) :
      action.Moves session (action.perform session).currentState :=
    ends.currentState_eq ▸ .stops ends
  cases action with
  | stop => exact ended .stop
  | shutDown => exact ended (.shutDown session.channel.link.isShutDown_close)
  | request request =>
      cases shut : (request.perform session).2.channel.link.isShutDown with
      | true => exact ended (.shutDown shut)
      | false =>
          have settled := Request.currentState_of_open (Prod.eta _).symm shut
          cases failed : (request.perform session).1 with
          | ok reply =>
              rw [failed] at settled
              have fit := Request.mem_allowed_of_ok (Prod.ext failed rfl)
              exact settled ▸ moves_of_ok failed fit
          | error error =>
              rw [failed, error?_error] at settled
              cases isEnd : error.isEnd with
              | true => exact ended (.reported failed isEnd)
              | false =>
                  exact .stays (by simp [SessionAction.perform, settled, stateAfter, isEnd])

/-- A link stays shut down and is shut down once, whatever is done to the session. -/
theorem isCounted_perform (counted : session.channel.link.IsCounted) (action : SessionAction) :
    (action.perform session).channel.link.IsCounted := by
  cases action with
  | stop => exact session.stop_effect.2.2.1.counted counted
  | shutDown => exact session.channel.link.ages_close.counted counted
  | request request =>
      have looked := session.channel.link.ages_tick.counted counted
      have answer := request.answer session
      rw [SessionAction.perform]
      generalize request.perform session = outcome at answer
      cases answer with
      | ended _ | refused _ _ => exact looked
      | handled _ does => exact does.ages.counted looked

theorem isCounted_performAll (counted : session.channel.link.IsCounted)
    (actions : List SessionAction) : (session.performAll actions).channel.link.IsCounted := by
  induction actions generalizing session with
  | nil => exact counted
  | cons action later ih => exact ih (isCounted_perform counted action)

/-- Wherever a session stands, if its link was shut down at most once. -/
theorem followsLifecycle (session : Session) (counted : session.channel.link.IsCounted) :
    session.FollowsLifecycle where
  afterEnd _ ends later :=
    isOver_of_stopped (SessionAction.currentState_performAll_of_stopped later ends.currentState_eq)
  refused _ := isRefused
  moves := session.moves
  accepted _ _ _ ran :=
    ⟨Request.mem_allowed_of_ok ran, currentState_eq_ite (Request.currentState_of_open ran)⟩
  unsubscribed _ _ _ failed := currentState_eq_ite (Request.currentState_of_unsubscribed failed)
  shutdowns_le := counted.shutdowns_le

end Session

namespace Channel

/-- What is done before and after the line of the client, if it succeeds. -/
def Listens (before : Channel) (failure? : Option LiveError) (after : Channel) : Prop :=
  failure? = none → before.link.Reads after.link ∧
    after.buffer.capacity = before.buffer.capacity

theorem isRule_listens : IsRule Listens where
  refl channel _ := ⟨.refl channel.link, rfl⟩
  trans one two succeeds :=
    ⟨(one rfl).1.trans (two succeeds).1, (two succeeds).2.trans (one rfl).2⟩

theorem obeys_readLine_listens (line : HandshakeLine) : Obeys Listens (readLine line) :=
  fun channel _ =>
    ⟨(obeys_readLine line channel).link, (obeys_readLine line channel).capacity_eq⟩

theorem obeys_lift_listens {α : Type} (result : Except LiveError α) :
    Obeys Listens (liftM result : ChannelStep α) := by
  cases result with
  | ok value => exact fun channel _ => ⟨.refl channel.link, rfl⟩
  | error error => exact fun _ => nofun

/-- What a client that is let in has done. -/
def Greets (settings : Settings) (before : Channel) (failure? : Option LiveError)
    (after : Channel) : Prop :=
  failure? = none → before.link.Ages after.link ∧
    after.buffer.capacity = before.buffer.capacity ∧
    ∃ challenge, after.link.sent =
      before.link.sent ++ [textBytes (settings.authentication challenge)]

section Handshake

variable {settings : Settings} {listens rule : Channel → Option LiveError → Channel → Prop}
  (isRule : IsRule listens) (reads : ∀ line, Obeys listens (readLine line))
  (lifts : ∀ {α : Type} (result : Except LiveError α),
    Obeys listens (liftM result : ChannelStep α))

include isRule reads lifts

theorem obeys_response_of : Obeys listens (do parseResponse (← readLine .response)) :=
  .bind isRule (reads .response) fun _ => lifts _

/-- A client only listens before and after its answer to the challenge, so what listening and
answering do says what the whole handshake does. -/
theorem obeys_handshake_of
    (passes : ∀ before middle after failure?,
      listens before none middle → rule middle failure? after → rule before failure? after)
    (fails : ∀ before after error,
      listens before (some error) after → rule before (some error) after)
    (answers : ∀ challenge before middle after failure?,
      Sends (settings.authentication challenge) before none middle →
        listens middle failure? after → rule before failure? after)
    (unsent : ∀ challenge before after error,
      Sends (settings.authentication challenge) before (some error) after →
        rule before (some error) after) :
    Obeys rule (handshake settings) := by
  have listening {α : Type} {step : ChannelStep α} {next : α → ChannelStep UInt64}
      (one : Obeys listens step) (two : ∀ value, Obeys rule (next value)) :
      Obeys rule (step >>= next) :=
    .bind_of passes fails one two
  refine listening (reads .version) fun _ => ?_
  refine listening (reads .challenge) fun line => ?_
  refine listening (lifts _) fun challenge => ?_
  exact .bind_of (answers challenge) (unsent challenge) (obeys_send .authenticating _)
    fun _ => obeys_response_of isRule reads lifts

end Handshake

/-- A client that is let in has written one line. -/
theorem obeys_handshake (settings : Settings) :
    Obeys (Greets settings) (handshake settings) := by
  refine obeys_handshake_of isRule_listens obeys_readLine_listens obeys_lift_listens ?_
    (fun _ _ _ _ => nofun) ?_ (fun _ _ _ _ _ => nofun)
  · intro before middle after failure? reads greets succeeds
    obtain ⟨link, capacity⟩ := reads rfl
    obtain ⟨ages, capacityAfter, challenge, sent⟩ := greets succeeds
    exact ⟨link.ages.trans ages, capacityAfter.trans capacity, challenge, link.sent_eq ▸ sent⟩
  · intro challenge before middle after failure? sends reads succeeds
    obtain ⟨link, capacity⟩ := reads succeeds
    exact ⟨sends.ages.trans link.ages,
      capacity.trans (congrArg ByteBuffer.capacity sends.buffer_eq), challenge,
      link.sent_eq.trans sends.sent_eq⟩

end Channel

/-- A session that is made over a link has written one line and is idle. -/
theorem Session.connect_effect {settings : Settings} {link : Link} {session : Session}
    {channel : Channel} (connected : connect settings link = (.ok session, channel)) :
    session.settings = settings ∧ session.state = .idle ∧
      link.Ages session.channel.link ∧
      session.channel.buffer.capacity = (ByteBuffer.ofCapacity settings.bufferSize).capacity ∧
      ∃ challenge, session.channel.link.sent =
        link.sent ++ [textBytes (settings.authentication challenge)] := by
  have greets := Channel.obeys_handshake settings ⟨link, ByteBuffer.ofCapacity settings.bufferSize⟩
  rw [connect] at connected
  generalize Channel.handshake settings ⟨link, ByteBuffer.ofCapacity settings.bufferSize⟩ =
    outcome at connected greets
  obtain ⟨result, after⟩ := outcome
  cases result with
  | error error => cases connected
  | ok number =>
      cases connected
      exact ⟨rfl, rfl, greets rfl⟩

/-- A session moves through its states in one direction and ends once, in every run of it
over any link. -/
theorem Session.lifecycle (settings : Settings) (link : Link) (counted : link.IsCounted)
    (session : Session) (channel : Channel)
    (connected : connect settings link = (.ok session, channel)) (actions : List SessionAction) :
    (session.performAll actions).FollowsLifecycle := by
  obtain ⟨-, -, ages, -⟩ := connect_effect connected
  exact followsLifecycle _ (isCounted_performAll (ages.counted counted) actions)

/-- A session that is asked too early, asks for too much and is then stopped twice. -/
theorem Session.lifecycle_stopped_twice :
    let link : Link := {
      events := [.arrival (textBytes "lsg\ncram=c0ffee\n"), .timeout,
        .arrival (textBytes "success=1|session_id=7\n")] }
    let subscription : Subscription :=
      { symbols := ["ESM2"], schema := .trades, symbology := .rawSymbol }
    ∃ session channel, link.IsCounted ∧ connect .smallest link = (.ok session, channel) ∧
      (session.performAll [.request .start, .request (.subscribe subscription), .stop,
        .request (.nextRecord none), .shutDown]).FollowsLifecycle := by
  intro link subscription
  have isLine : ∀ line ∈ ["lsg", "cram=" ++ "c0ffee", "success=1|session_id=7"],
      Channel.IsLine (ByteBuffer.ofCapacity Settings.smallest.bufferSize).capacity line := by
    decide
  let channel : Channel := ⟨link, ByteBuffer.ofCapacity Settings.smallest.bufferSize⟩
  have whole : channel.incoming = Channel.lineBytes "lsg" ++
      Channel.lineBytes ("cram=" ++ "c0ffee") ++ Channel.lineBytes "success=1|session_id=7" ++
      [] := by decide
  obtain ⟨channel, greeted, -⟩ :=
    channel.handshake_eq .smallest ⟨rfl, rfl, by decide⟩ (by decide) whole isLine
  have connected : connect .smallest link =
      (.ok (Settings.smallest.session channel 7), channel) := by
    rw [connect, greeted]
    rfl
  exact ⟨_, channel, rfl, connected,
    lifecycle .smallest link rfl _ channel connected _⟩

end TickWire
