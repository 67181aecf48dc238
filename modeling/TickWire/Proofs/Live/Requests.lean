import TickWire.Proofs.Live.Effects

/-!
# Requests

What is asked of a session, and what each request can lead to over any link.  A request
first looks whether the link was shut down.  Then it is answered in one of three ways: the
session has ended, the state does not allow the request, or the request is handled, which
writes at most one line.
-/

namespace TickWire

/-- What is asked of a session. -/
inductive Request
  | subscribe (subscription : Subscription)
  | start
  | nextRecord (timeout : Option Nat)

/-- What a request gives. -/
inductive Reply
  | accepted
  | metadata (metadata : Metadata)
  | record (frame? : Option Frame)

namespace Request

/-- The name of a request in errors. -/
def operation : Request → Operation
  | subscribe _ => .subscribe
  | start => .start
  | nextRecord _ => .nextRecord

/-- The states in which a request is allowed. -/
def allowed : Request → List SessionState
  | subscribe _ => [.idle, .subscribed]
  | start => [.subscribed]
  | nextRecord _ => [.streaming]

/-- The state in which a request that succeeds leaves the session. -/
def goal : Request → SessionState
  | subscribe _ => .subscribed
  | start | nextRecord _ => .streaming

/-- Asks a session. -/
def perform : Request → SessionStep Reply
  | subscribe subscription => do
      Session.subscribe subscription
      return .accepted
  | start => do
      let metadata ← Session.start
      return .metadata metadata
  | nextRecord timeout => do
      let frame? ← Session.nextRecord timeout
      return .record frame?

theorem stopped_notMem_allowed (request : Request) : SessionState.stopped ∉ request.allowed := by
  cases request <;> simp [allowed]

/-- The lines that a request writes, given the error that it ends with, if it does. -/
inductive Writes (settings : Settings) : Request → Option LiveError → List Bytes → Prop where
  | refused {request : Request} {error : LiveError} : Writes settings request (some error) []
  | subscription {subscription : Subscription} {line : String}
      (encoded : subscription.encode settings.subscriptionLimit = .ok line) :
      Writes settings (.subscribe subscription) none [textBytes line]
  /-- The line is written before anything is received, so it stands whatever comes. -/
  | start {failure? : Option LiveError} :
      Writes settings .start failure? [textBytes startLine]
  | nextRecord {timeout : Option Nat} : Writes settings (.nextRecord timeout) none []

/-- What a request leads to in a state that allows it. -/
structure Handled (request : Request) (before : Session) (failure? : Option LiveError)
    (after : Session) : Prop where
  ages : before.channel.link.Ages after.channel.link
  undisturbed : before.channel.link.IsUndisturbed → after.channel.link.IsUndisturbed
  capacity_eq : after.channel.buffer.capacity = before.channel.buffer.capacity
  settings_eq : after.settings = before.settings
  state_eq : after.state =
    if failure? = none then request.goal else stateAfter before.state failure?
  /-- Only who shuts the link down closes the session from this side. -/
  notClosed : before.channel.link.IsUndisturbed → failure? ≠ some .sessionClosed
  smooth : before.channel.link.IsSmooth → after.channel.link.IsSmooth
  /-- Where nothing fails on the link, errors are about what was received. -/
  isOfStream_eq : before.channel.link.IsSmooth → ∀ error ∈ failure?, error.isOfStream = true
  /-- Who only sends does not notice that the connection is closed. -/
  isEnd_eq : ∀ subscription, request = .subscribe subscription →
    ∀ error ∈ failure?, error.isEnd = false
  sent_eq : ∃ lines, Writes before.settings request failure? lines ∧
    after.channel.link.sent = before.channel.link.sent ++ lines

end Request

namespace Session

variable (session : Session)

/-- The session after it looked whether the link was shut down. -/
def looked : Session where
  settings := session.settings
  number := session.number
  state := if session.channel.link.tick.isShutDown then .stopped else session.state
  channel := ⟨session.channel.link.tick, session.channel.buffer⟩
  upgradeBuffer := session.upgradeBuffer
  version := session.version
  stamped := session.stamped

/-- A session that looked knows whether its link is shut down. -/
theorem currentState_looked : session.looked.currentState = session.looked.state := by
  unfold currentState looked
  dsimp only
  split <;> rfl

/-- What ended a session before is found. -/
theorem state_looked_of_stopped (ended : session.currentState = .stopped) :
    session.looked.state = .stopped := by
  unfold currentState at ended
  unfold looked
  dsimp only
  split
  · rfl
  next isOpen =>
    have wasOpen : ¬session.channel.link.isShutDown = true := fun shut =>
      isOpen (session.channel.link.ages_tick.shutDown shut)
    rwa [if_neg wasOpen] at ended

/-- Nothing but shutting the link down changes the state that is found. -/
theorem state_looked_of_open (isOpen : session.looked.channel.link.isShutDown = false) :
    session.looked.state = session.currentState := by
  have isOpenNow : ¬session.channel.link.tick.isShutDown = true :=
    ne_true_of_eq_false isOpen
  have wasOpen : ¬session.channel.link.isShutDown = true := fun shut =>
    isOpenNow (session.channel.link.ages_tick.shutDown shut)
  simp only [looked, currentState, if_neg isOpenNow, if_neg wasOpen]

theorem require_eq (operation : Operation) (allowed : List SessionState) :
    require operation allowed session =
      (if session.looked.state = .stopped then .error .sessionClosed
        else if session.looked.state ∉ allowed then
          .error (.invalidState operation session.looked.state)
        else .ok (), session.looked) := by
  have checked : onChannel Channel.checkShutDown session =
      (.ok session.channel.link.tick.isShutDown,
        { session with channel := ⟨session.channel.link.tick, session.channel.buffer⟩ }) := rfl
  rw [require, bind_of_ok checked]
  unfold looked
  cases session.channel.link.tick.isShutDown with
  | true =>
      simp only [if_true]
      rw [bind_of_ok (modify_run _ _), bind_of_ok (get_run _), if_pos rfl]
      exact bind_of_error (throw_run _ _)
  | false =>
      simp only [Bool.false_eq_true, if_false]
      rw [bind_of_ok (get_run _)]
      split
      · exact bind_of_error (throw_run _ _)
      split
      · exact throw_run _ _
      · exact pure_run _ _

end Session

namespace Subscription

theorem fault_of_checkSymbols {symbols : List String} {error : LiveError} :
    ∀ {index : Nat}, checkSymbols index symbols = .error error →
      ∃ fault, error = .configuration fault := by
  induction symbols with
  | nil => exact nofun
  | cons symbol others ih =>
      intro index failed
      rw [checkSymbols] at failed
      split at failed
      · cases failed
        exact ⟨_, rfl⟩
      split at failed
      · cases failed
        exact ⟨_, rfl⟩
      · exact ih failed

theorem fault_of_joinSymbols {symbols : List String} {error : LiveError}
    (failed : joinSymbols symbols = .error error) : ∃ fault, error = .configuration fault := by
  unfold joinSymbols at failed
  split at failed
  · cases failed
    exact ⟨_, rfl⟩
  dsimp only at failed
  cases checked : checkSymbols 0 symbols with
  | error fault =>
      rw [checked] at failed
      cases failed
      exact fault_of_checkSymbols checked
  | ok done =>
      rw [checked] at failed
      cases failed

/-- A subscription that cannot be sent is refused for what it says. -/
theorem fault_of_encode {subscription : Subscription} {limit : Nat} {error : LiveError}
    (failed : subscription.encode limit = .error error) :
    ∃ fault, error = .configuration fault := by
  unfold encode at failed
  cases joined : joinSymbols subscription.symbols with
  | error fault =>
      rw [joined] at failed
      cases failed
      exact fault_of_joinSymbols joined
  | ok symbols =>
      rw [joined, ok_bind] at failed
      dsimp only at failed
      split at failed <;> cases failed
      exact ⟨_, rfl⟩

end Subscription

namespace Session

/-- What sending a text does to a session. -/
structure Sends (text : String) (before : Session) (failure? : Option LiveError)
    (after : Session) : Prop where
  channel : before.channel.Sends text failure? after.channel
  settings_eq : after.settings = before.settings
  state_eq : after.state = before.state

theorem obeys_send (activity : LinkActivity) (text : String) :
    Obeys (Sends text) (onChannel (Channel.send activity text)) :=
  fun session => ⟨Channel.obeys_send activity text session.channel, rfl, rfl⟩

/-- What the rest of a start leads to once its line is written. -/
structure Starts (before : Session) (failure? : Option LiveError) (after : Session) :
    Prop where
  link : before.channel.link.Reads after.channel.link
  capacity_eq : after.channel.buffer.capacity = before.channel.buffer.capacity
  settings_eq : after.settings = before.settings
  state_eq : after.state =
    if failure? = none then .streaming else stateAfter before.state failure?
  notClosed : before.channel.link.IsUndisturbed → failure? ≠ some .sessionClosed
  isOfStream_eq : before.channel.link.IsSmooth → ∀ error ∈ failure?, error.isOfStream = true

theorem Starts.after_receiving {before middle after : Session} {failure? : Option LiveError}
    (one : before.Receives none middle) (two : middle.Starts failure? after) :
    before.Starts failure? after where
  link := one.link.trans two.link
  capacity_eq := two.capacity_eq.trans one.capacity_eq
  settings_eq := two.settings_eq.trans one.settings_eq
  state_eq := by rw [two.state_eq, one.state_eq]; rfl
  notClosed was := two.notClosed (one.link.undisturbed was)
  isOfStream_eq was := two.isOfStream_eq (one.link.smooth was)

/-- What is received before the records, and then the session streams. -/
theorem obeys_receive_start : Obeys Starts (do
    let (version, length) ← decoded (decodePrelude (← receive preludeSize))
    consume preludeSize
    let metadata ← receiveMetadata version length
    modify fun session =>
      { session with version, stamped := metadata.stamped, state := .streaming }
    return metadata.upgrade (← get).settings.policy) := by
  have receiving {α : Type} {step : SessionStep α} {next : α → SessionStep Metadata}
      (one : Obeys Receives step) (two : ∀ value, Obeys Starts (next value)) :
      Obeys Starts (step >>= next) := by
    refine .bind_of ?_ ?_ one two
    · exact fun _ _ _ _ => Starts.after_receiving
    · exact fun _ _ _ failed =>
        ⟨failed.link, failed.capacity_eq, failed.settings_eq, failed.state_eq, failed.notClosed,
          failed.isOfStream_eq⟩
  refine receiving (obeys_receive _) fun bytes => ?_
  refine receiving (obeys_decoded _) fun prelude => ?_
  refine receiving (obeys_consume _) fun _ => ?_
  refine receiving (obeys_receiveMetadata _ _) fun metadata => ?_
  exact fun session => ⟨.refl session.channel.link, rfl, rfl, rfl, nofun, fun _ => nofun⟩

/-- Reading records: what arrives of one stays until it is whole. -/
theorem obeys_receive_record (timeout : Option Nat) : Obeys Receives (do
    if !(← await 1 timeout) then return none
    let size := Header.sizeOfLength ((← unread).headD 0)
    if size < headerSize then throw (.format (.invalidLength (.recordBelowHeader size)))
    let capacity := (← get).channel.buffer.capacity
    if capacity < size then throw (.configuration (.recordBeyondBuffer size capacity))
    if !(← await size timeout) then return none
    return some (← takeFrame size) : SessionStep (Option Frame)) := by
  refine .bind isRule_receives (obeys_await 1 timeout) fun arrived => ?_
  split
  · exact .pure isRule_receives none
  refine .bind isRule_receives obeys_unread fun bytes => ?_
  dsimp only
  split
  · exact .throw_bind fun _ => receives_of_error rfl fun _ => rfl
  refine .bind isRule_receives (.get isRule_receives) fun session => ?_
  split
  · exact .throw_bind fun _ => receives_of_error rfl fun _ => rfl
  refine .bind isRule_receives (obeys_await _ timeout) fun whole => ?_
  split
  · exact .pure isRule_receives none
  · exact .bind isRule_receives (obeys_takeFrame _) fun _ => .pure isRule_receives _

end Session

namespace Request

variable {request : Request} {before after : Session}

/-- What is only received in a state that stays is what the next record leads to. -/
theorem Handled.of_receives {timeout : Option Nat} {failure? : Option LiveError}
    (streaming : before.state = .streaming) (received : before.Receives failure? after) :
    (nextRecord timeout).Handled before failure? after where
  ages := received.link.ages
  undisturbed := received.link.undisturbed
  capacity_eq := received.capacity_eq
  settings_eq := received.settings_eq
  state_eq := by
    rw [received.state_eq, streaming]
    cases failure? <;> rfl
  notClosed := received.notClosed
  smooth := received.link.smooth
  isOfStream_eq := received.isOfStream_eq
  isEnd_eq _ asked := nomatch asked
  sent_eq := by
    refine ⟨[], ?_, by rw [received.link.sent_eq, List.append_nil]⟩
    cases failure? with
    | none => exact .nextRecord
    | some error => exact .refused

/-- A request that sends nothing and is refused for what it says. -/
theorem Handled.of_refusal {fault : ConfigurationFault} :
    request.Handled before (some (.configuration fault)) before where
  ages := .refl _
  undisturbed := id
  capacity_eq := rfl
  settings_eq := rfl
  state_eq := rfl
  notClosed := nofun
  smooth := id
  isOfStream_eq _ := by
    rintro _ ⟨⟩
    rfl
  isEnd_eq _ _ := by
    rintro _ ⟨⟩
    rfl
  sent_eq := ⟨[], .refused, (List.append_nil _).symm⟩

/-- A request whose line is not sent. -/
theorem Handled.of_unsent {text : String} {error : LiveError}
    (sends : before.Sends text (some error) after) :
    request.Handled before (some error) after where
  ages := sends.channel.ages
  undisturbed := sends.channel.undisturbed
  capacity_eq := by rw [sends.channel.buffer_eq]
  settings_eq := sends.settings_eq
  state_eq := by simp [stateAfter, sends.channel.isEnd_eq error rfl, sends.state_eq]
  notClosed _ closed := by
    cases closed
    cases sends.channel.isEnd_eq _ rfl
  smooth was := (sends.channel.smooth was).2
  isOfStream_eq was := nomatch (sends.channel.smooth was).1
  isEnd_eq _ _ := sends.channel.isEnd_eq
  sent_eq := ⟨[], .refused, sends.channel.sent_eq⟩

theorem Handled.of_sent {subscription : Subscription} {line : String}
    (encoded : subscription.encode before.settings.subscriptionLimit = .ok line)
    (sends : before.Sends line none after) :
    (subscribe subscription).Handled before none { after with state := .subscribed } where
  ages := sends.channel.ages
  undisturbed := sends.channel.undisturbed
  capacity_eq := congrArg ByteBuffer.capacity sends.channel.buffer_eq
  settings_eq := sends.settings_eq
  state_eq := rfl
  notClosed := nofun
  smooth was := (sends.channel.smooth was).2
  isOfStream_eq _ := nofun
  isEnd_eq _ _ _ found := nomatch found
  sent_eq := ⟨_, .subscription encoded, sends.channel.sent_eq⟩

theorem handled_subscribe (subscription : Subscription) :
    Obeys (Handled (.subscribe subscription)) (do
      let line ← subscription.encode (← get).settings.subscriptionLimit
      Session.onChannel (Channel.send .subscribing line)
      modify fun session => { session with state := .subscribed }) := by
  refine .get_bind fun session => ?_
  cases encoded : subscription.encode session.settings.subscriptionLimit with
  | error error =>
      obtain ⟨fault, rfl⟩ := Subscription.fault_of_encode encoded
      rw [bind_of_error (lift_run _ _)]
      exact .of_refusal
  | ok line =>
      rw [bind_of_ok (lift_run _ _)]
      cases sent : Session.onChannel (Channel.send .subscribing line) session with
      | mk result after =>
          have sends := (Session.obeys_send .subscribing line).of_run sent
          cases result with
          | error error =>
              rw [bind_of_error sent]
              exact .of_unsent sends
          | ok _ =>
              rw [bind_of_ok sent]
              exact .of_sent encoded sends

theorem handled_start : Obeys (Handled .start) (do
    Session.onChannel (Channel.send .starting startLine)
    let (version, length) ← Session.decoded (decodePrelude (← Session.receive preludeSize))
    Session.consume preludeSize
    let metadata ← Session.receiveMetadata version length
    modify fun session =>
      { session with version, stamped := metadata.stamped, state := .streaming }
    return metadata.upgrade (← get).settings.policy) := by
  refine .bind_of ?_ ?_ (Session.obeys_send .starting startLine)
    (fun _ => Session.obeys_receive_start)
  · intro before middle after failure? sends starts
    exact {
      ages := sends.channel.ages.trans starts.link.ages
      undisturbed := fun was => starts.link.undisturbed (sends.channel.undisturbed was)
      capacity_eq := starts.capacity_eq.trans
        (congrArg ByteBuffer.capacity sends.channel.buffer_eq)
      settings_eq := starts.settings_eq.trans sends.settings_eq
      state_eq := by rw [starts.state_eq, sends.state_eq]; rfl
      notClosed := fun was => starts.notClosed (sends.channel.undisturbed was)
      smooth := fun was => starts.link.smooth (sends.channel.smooth was).2
      isOfStream_eq := fun was => starts.isOfStream_eq (sends.channel.smooth was).2
      isEnd_eq _ asked := nomatch asked
      sent_eq := ⟨_, .start, starts.link.sent_eq.trans sends.channel.sent_eq⟩ }
  · exact fun _ _ _ => .of_unsent

/-- How a request is answered. -/
inductive Answer (request : Request) (session : Session) :
    Except LiveError Reply × Session → Prop where
  | ended (stopped : session.looked.state = .stopped) :
      Answer request session (.error .sessionClosed, session.looked)
  | refused (running : session.looked.state ≠ .stopped)
      (unfit : session.looked.state ∉ request.allowed) :
      Answer request session
        (.error (.invalidState request.operation session.looked.state), session.looked)
  | handled {result : Except LiveError Reply} {after : Session}
      (fit : session.looked.state ∈ request.allowed)
      (does : request.Handled session.looked (error? result) after) :
      Answer request session (result, after)

/-- An operation that looks at the state first. -/
theorem answer_of_require {α : Type} {body : SessionStep α} {reply : α → Reply}
    (session : Session)
    (handles : session.looked.state ∈ request.allowed →
      request.Handled session.looked (error? (body session.looked).1) (body session.looked).2) :
    request.Answer session ((do
      let value ← (do
        Session.require request.operation request.allowed
        body)
      return reply value) session) := by
  have required := session.require_eq request.operation request.allowed
  by_cases stopped : session.looked.state = .stopped
  · rw [if_pos stopped] at required
    rw [bind_of_error (bind_of_error required)]
    exact .ended stopped
  rw [if_neg stopped] at required
  by_cases fit : session.looked.state ∈ request.allowed
  · rw [if_neg (not_not_intro fit)] at required
    have does := handles fit
    cases ran : body session.looked with
    | mk result after =>
        rw [ran] at does
        rw [map_run ((bind_of_ok required).trans ran)]
        refine .handled fit ?_
        cases result <;> exact does
  · rw [if_pos fit] at required
    rw [bind_of_error (bind_of_error required)]
    exact .refused stopped fit

/-- Every request is answered in one of the three ways. -/
theorem answer (request : Request) (session : Session) :
    request.Answer session (request.perform session) := by
  cases request with
  | subscribe subscription =>
      exact answer_of_require session fun _ => handled_subscribe subscription _
  | start => exact answer_of_require session fun _ => handled_start _
  | nextRecord timeout =>
      refine answer_of_require session fun fit => ?_
      exact .of_receives (List.mem_singleton.mp fit) (Session.obeys_receive_record timeout _)

end Request

end TickWire
