import TickWire.Proofs.Live.Opening
import TickWire.Proofs.Live.Subscription

/-!
# What a session writes

The lines that a client writes in a run of its session.  They are the one that asks to be
let in, then subscriptions and starts.  A session that streams or has ended writes nothing,
so a start is the last line unless it leaves the session subscribed: then the client may
subscribe and start again, and does so over bytes that are no metadata.
-/

namespace TickWire

/-- The lines of a client after it was let in, with the number of starts after which it
goes on. -/
inductive Transcript (settings : Settings) : (again : Nat) → (lines : List Bytes) → Prop where
  | done : Transcript settings 0 []
  | started : Transcript settings 0 [textBytes startLine]
  | subscription {subscription : Subscription} {line : String} {again : Nat}
      {lines : List Bytes}
      (encoded : subscription.encode settings.subscriptionLimit = .ok line)
      (rest : Transcript settings again lines) :
      Transcript settings again (textBytes line :: lines)
  | startedAgain {again : Nat} {lines : List Bytes} (rest : Transcript settings again lines) :
      Transcript settings (again + 1) (textBytes startLine :: lines)

/-- The lines that a gateway expects from a client that it let in: subscriptions, and then
at most one start. -/
def Settings.Expects (settings : Settings) (lines : List Bytes) : Prop :=
  ∃ subscriptions starts, lines = subscriptions ++ starts ∧
    (∀ bytes ∈ subscriptions, ∃ (subscription : Subscription) (line : String),
      subscription.encode settings.subscriptionLimit = .ok line ∧ bytes = textBytes line) ∧
    (starts = [] ∨ starts = [textBytes startLine])

/-- No subscription reads like a start. -/
theorem Subscription.textBytes_startLine_ne {subscription : Subscription} {limit : Nat}
    {line : String}
    (encoded : subscription.encode limit = .ok line) : textBytes startLine ≠ textBytes line := by
  intro same
  have read := congrArg Utf8.decode same
  rw [textBytes, textBytes, Utf8.decode_encode, Utf8.decode_encode] at read
  obtain ⟨-, -, rfl⟩ := encode_eq_ok_iff.mp encoded
  simp [startLine, line_eq, String.toList_append] at read

/-- A gateway expects nothing after a start. -/
theorem Settings.Expects.later_eq_nil {settings : Settings} {earlier later : List Bytes}
    (expects : settings.Expects (earlier ++ textBytes startLine :: later)) : later = [] := by
  obtain ⟨subscriptions, starts, split, asks, atMostOne⟩ := expects
  have noSubscription : textBytes startLine ∉ subscriptions := fun asked =>
    have ⟨_, _, encoded, reads⟩ := asks _ asked
    Subscription.textBytes_startLine_ne encoded reads
  have fewStarts : starts.length ≤ 1 := by
    obtain rfl | rfl := atMostOne <;> simp
  rcases List.append_eq_append_iff.mp split with ⟨front, rfl, rest⟩ | ⟨front, -, rfl⟩
  · cases front with
    | nil =>
        rw [List.nil_append] at rest
        simpa [← rest] using fewStarts
    | cons first front =>
        obtain ⟨rfl, -⟩ := List.cons_eq_cons.mp rest
        simp at noSubscription
  · rw [List.length_append, List.length_cons] at fewStarts
    exact List.eq_nil_of_length_eq_zero (by omega)

theorem Transcript.expects {settings : Settings} {lines : List Bytes}
    (transcript : Transcript settings 0 lines) : settings.Expects lines := by
  generalize none : 0 = again at transcript
  induction transcript with
  | done => exact ⟨[], [], rfl, nofun, .inl rfl⟩
  | started => exact ⟨[], _, rfl, nofun, .inr rfl⟩
  | @subscription subscription line _ _ encoded _ ih =>
      obtain ⟨subscriptions, starts, rfl, asks, atMostOne⟩ := ih none
      refine ⟨textBytes line :: subscriptions, starts, rfl, ?_, atMostOne⟩
      rw [List.forall_mem_cons]
      exact ⟨⟨subscription, line, encoded, rfl⟩, asks⟩
  | startedAgain _ _ => contradiction

namespace SessionAction

/-- The lines of an action. -/
inductive Writes (session : Session) : SessionAction → List Bytes → Prop where
  | nothing {action : SessionAction} : Writes session action []
  | subscription {subscription : Subscription} {line : String}
      (fit : session.currentState = .idle ∨ session.currentState = .subscribed)
      (encoded : subscription.encode session.settings.subscriptionLimit = .ok line) :
      Writes session (.request (.subscribe subscription)) [textBytes line]
  | started (fit : session.currentState = .subscribed) :
      Writes session (.request .start) [textBytes startLine]

variable {session : Session}

theorem writes (session : Session) (action : SessionAction) :
    ∃ lines, action.Writes session lines ∧
      (action.perform session).channel.link.sent = session.channel.link.sent ++ lines := by
  have silent {after : Session}
      (same : after.channel.link.sent = session.channel.link.sent) :
      ∃ lines, action.Writes session lines ∧
        after.channel.link.sent = session.channel.link.sent ++ lines :=
    ⟨[], .nothing, by rw [same, List.append_nil]⟩
  cases action with
  | stop => exact silent session.stop_effect.2.2.2.1
  | shutDown => exact silent session.channel.link.sameTraffic_close.sent_eq
  | request request =>
      have looked := session.channel.link.sameTraffic_tick.sent_eq
      have answer := request.answer session
      rw [perform]
      generalize request.perform session = outcome at answer
      cases answer with
      | ended _ | refused _ _ => exact silent looked
      | @handled result _ fit does =>
          obtain ⟨lines, written, sent⟩ := does.sent_eq
          refine ⟨lines, ?_, sent.trans (congrArg (· ++ lines) looked)⟩
          have fitNow := Request.currentState_mem_allowed fit
          generalize error? result = failure? at written
          cases written with
          | refused | nextRecord => exact .nothing
          | subscription encoded =>
              exact .subscription (by simpa [Request.allowed] using fitNow) encoded
          | start => exact .started (List.mem_singleton.mp fitNow)

theorem settings_perform (session : Session) (action : SessionAction) :
    (action.perform session).settings = session.settings := by
  cases action with
  | stop => exact session.stop_effect.2.1
  | shutDown => rfl
  | request request =>
      have answer := request.answer session
      rw [perform]
      generalize request.perform session = outcome at answer
      cases answer with
      | ended _ | refused _ _ => rfl
      | handled _ does => exact does.settings_eq

end SessionAction

namespace Session

variable {session : Session}

/-- Whether an action is a start that writes its line and leaves the session subscribed. -/
def startsInVain (session : Session) : SessionAction → Bool
  | .request .start =>
    let after := SessionAction.perform (.request .start) session
    after.currentState = .subscribed && after.channel.link.sent ≠ session.channel.link.sent
  | _ => false

/-- The number of starts in a run that leave the session subscribed. -/
def vainStarts : Session → List SessionAction → Nat
  | _, [] => 0
  | session, action :: later =>
    (session.startsInVain action).toNat + (action.perform session).vainStarts later

/-- A session that streams or has ended. -/
def IsQuiet (session : Session) : Prop :=
  session.currentState = .streaming ∨ session.currentState = .stopped

theorem IsQuiet.writes {action : SessionAction} {lines : List Bytes} (quiet : session.IsQuiet)
    (writes : action.Writes session lines) : lines = [] := by
  cases writes with
  | nothing => rfl
  | subscription fit _ => obtain was | was := quiet <;> simp [was] at fit
  | started fit => obtain was | was := quiet <;> simp [was] at fit

theorem IsQuiet.perform (quiet : session.IsQuiet) (action : SessionAction) :
    (action.perform session).IsQuiet := by
  have moves := session.moves action
  rw [IsQuiet]
  generalize (action.perform session).currentState = state at moves
  cases moves with
  | stays was => exact was ▸ quiet
  | stops _ => exact .inr rfl
  | subscribes was _ => obtain is | is := quiet <;> simp [is] at was
  | starts _ _ => exact .inl rfl

theorem vainStarts_cons {action : SessionAction} (later : List SessionAction)
    (effective : session.startsInVain action = false) :
    session.vainStarts (action :: later) = (action.perform session).vainStarts later := by
  rw [vainStarts, effective, Bool.toNat_false, Nat.zero_add]

/-- What writes nothing is no start in vain. -/
theorem startsInVain_of_silent {action : SessionAction}
    (silent : (action.perform session).channel.link.sent = session.channel.link.sent) :
    session.startsInVain action = false := by
  unfold startsInVain
  split <;> simp [silent]

theorem IsQuiet.performAll (quiet : session.IsQuiet) (actions : List SessionAction) :
    (session.performAll actions).channel.link.sent = session.channel.link.sent ∧
      session.vainStarts actions = 0 := by
  induction actions generalizing session with
  | nil => exact ⟨rfl, rfl⟩
  | cons action later ih =>
      obtain ⟨lines, writes, sent⟩ := action.writes session
      have same : (action.perform session).channel.link.sent = session.channel.link.sent := by
        rw [sent, quiet.writes writes, List.append_nil]
      obtain ⟨sentLater, none⟩ := ih (quiet.perform action)
      have effective := startsInVain_of_silent same
      exact ⟨sentLater.trans same, (vainStarts_cons later effective).trans none⟩

/-- The state after a start that wrote its line. -/
theorem subscribed_or_isQuiet_of_start (was : session.currentState = .subscribed) :
    (SessionAction.perform (.request .start) session).currentState = .subscribed ∨
      (SessionAction.perform (.request .start) session).IsQuiet := by
  have moves := session.moves (.request .start)
  rw [IsQuiet]
  generalize (SessionAction.perform (.request .start) session).currentState = state at moves
  cases moves with
  | stays is => exact .inl (is.symm.trans was)
  | stops _ => exact .inr (.inr rfl)
  | starts _ _ => exact .inr (.inl rfl)

/-- What a run writes, whatever is asked and whatever it meets. -/
theorem transcript_performAll (session : Session) (actions : List SessionAction) :
    ∃ lines, (session.performAll actions).channel.link.sent =
        session.channel.link.sent ++ lines ∧
      Transcript session.settings (session.vainStarts actions) lines := by
  induction actions generalizing session with
  | nil => exact ⟨[], (List.append_nil _).symm, .done⟩
  | cons action later ih =>
      obtain ⟨written, writes, sent⟩ := action.writes session
      obtain ⟨lines, sentLater, transcript⟩ := ih (action.perform session)
      rw [action.settings_perform session] at transcript
      refine ⟨written ++ lines, ?_, ?_⟩
      · rw [← List.append_assoc, ← sent]
        exact sentLater
      cases writes with
      | nothing =>
          rw [vainStarts_cons later (startsInVain_of_silent (sent.trans (List.append_nil _)))]
          exact transcript
      | subscription _ encoded =>
          rw [vainStarts_cons later rfl]
          exact .subscription encoded transcript
      | started fit =>
          rcases subscribed_or_isQuiet_of_start fit with subscribed | quiet
          · have vain : session.startsInVain (.request .start) = true := by
              simp [startsInVain, subscribed, sent]
            rw [vainStarts, vain, Bool.toNat_true, Nat.add_comm]
            exact .startedAgain transcript
          · have effective : session.startsInVain (.request .start) = false := by
              obtain is | is := quiet <;> simp [startsInVain, is]
            obtain ⟨silent, none⟩ := quiet.performAll later
            have nothing : lines = [] :=
              List.append_right_eq_self.mp (sentLater.symm.trans silent)
            rw [vainStarts_cons later effective, none, nothing]
            exact .started

end Session

/-! ## Starting over bytes that are no metadata -/

namespace Session

variable {session : Session}

/-- A session that is subscribed and over whose steady link bytes come that begin like no
metadata. -/
structure IsMisled (session : Session) (front : Bytes) (fault : Error) : Prop where
  subscribed : session.state = .subscribed
  steady : session.channel.link.IsSteady
  unlimited : session.channel.link.writesLeft? = none
  roomy : front.length ≤ session.channel.buffer.capacity
  length_eq : front.length = preludeSize
  comes : ∃ later, session.channel.incoming = front ++ later
  refused : decodePrelude front = .error fault

namespace IsMisled

variable {front : Bytes} {fault : Error}

/-- The bytes are reported and not taken, so the next start meets them again. -/
theorem start_run (misled : session.IsMisled front fault) :
    ∃ after, session.start = (.error (.format fault), after) ∧ after.IsMisled front fault ∧
      after.channel.link.sent = session.channel.link.sent ++ [textBytes startLine] := by
  obtain ⟨later, comes⟩ := misled.comes
  obtain ⟨asked, asks, ran⟩ := start_asked misled.subscribed misled.steady
    (by simp [misled.unlimited]) (misled.length_eq ▸ misled.roomy) misled.length_eq comes
  refine ⟨asked, ?_, ?_, asks.sent_eq⟩
  · rw [ran, startFrom, misled.refused]
    exact bind_of_error rfl
  · exact {
      subscribed := asks.state_eq.trans misled.subscribed
      steady := asks.steady
      unlimited := asks.ages.unlimited misled.unlimited
      roomy := asks.capacity_eq ▸ misled.roomy
      length_eq := misled.length_eq
      comes := ⟨later, asks.incoming_eq.trans comes⟩
      refused := misled.refused }

/-- Every start over such bytes writes its line, however many there were before. -/
theorem sent_performAll (misled : session.IsMisled front fault) (count : Nat) :
    (session.performAll (List.replicate count (.request .start))).channel.link.sent =
      session.channel.link.sent ++ List.replicate count (textBytes startLine) := by
  induction count generalizing session with
  | zero => exact (List.append_nil _).symm
  | succ count ih =>
      obtain ⟨after, ran, misledAfter, sent⟩ := misled.start_run
      have performed : SessionAction.perform (.request .start) session = after := by
        rw [SessionAction.perform, Request.perform, bind_of_error ran]
      rw [List.replicate_succ, performAll, List.foldl_cons, performed, ← performAll,
        ih misledAfter, sent, List.replicate_succ, List.append_assoc, List.singleton_append]

end IsMisled

/-- A client that is let in, subscribes and then meets bytes that are no metadata writes a
start for each time it starts. -/
theorem starts_written_again {settings : Settings} {link : Link} {challenge : String}
    {front rest : Bytes} {fault : Error} {subscription : Subscription} {line : String}
    (admits : link.Admits settings challenge (front ++ rest))
    (length : front.length = preludeSize) (refused : decodePrelude front = .error fault)
    (encoded : subscription.encode settings.subscriptionLimit = .ok line) (count : Nat) :
    ∃ session channel, connect settings link = (.ok session, channel) ∧
      (session.performAll (.request (.subscribe subscription) ::
          List.replicate count (.request .start))).channel.link.sent =
        link.sent ++ [textBytes (settings.authentication challenge), textBytes line]
          ++ List.replicate count (textBytes startLine) := by
  obtain ⟨session, channel, ready, connected, ran, isReady⟩ := admits.ready encoded
  have performed : SessionAction.perform (.request (.subscribe subscription)) session = ready := by
    rw [SessionAction.perform, Request.perform, bind_of_ok ran]
    rfl
  have misled : ready.IsMisled front fault := {
    subscribed := isReady.subscribed
    steady := isReady.steady
    unlimited := isReady.unlimited
    roomy := length ▸ Nat.le_trans (by decide) isReady.roomy
    length_eq := length
    comes := ⟨rest, isReady.incoming_eq⟩
    refused }
  refine ⟨session, channel, connected, ?_⟩
  rw [performAll, List.foldl_cons, performed, ← performAll, misled.sent_performAll count,
    isReady.sent_eq]

end Session

/-! ## Whole runs -/

/-- The writes of a run are the line that asks to be let in and then a transcript, which
a gateway expects unless a start was in vain. -/
theorem Session.writes_transcript (settings : Settings) (link : Link) (session : Session)
    (channel : Channel) (connected : connect settings link = (.ok session, channel))
    (actions : List SessionAction) :
    ∃ challenge lines, (session.performAll actions).channel.link.sent =
        link.sent ++ textBytes (settings.authentication challenge) :: lines ∧
      Transcript settings (session.vainStarts actions) lines ∧
      (session.vainStarts actions = 0 → settings.Expects lines) := by
  obtain ⟨rfl, -, -, -, challenge, greeted⟩ := connect_effect connected
  obtain ⟨lines, sent, transcript⟩ := session.transcript_performAll actions
  refine ⟨challenge, lines, ?_, transcript, fun none => (none ▸ transcript).expects⟩
  rw [sent, greeted, List.append_assoc, List.singleton_append]

/-- Settings with room for one short subscription. -/
def Settings.brief : Settings :=
  { Settings.smallest with subscriptionLimit := 64, subscriptionLimit_pos := by decide }

/-- A link over which a client is let in and then meets bytes that are no metadata. -/
def Link.misleading : Link where
  events := [.arrival (textBytes "lsg\ncram=c0ffee\nsuccess=1|session_id=7\n"),
    .arrival (textBytes "not DBN.")]

/-- A subscription to one symbol. -/
def Subscription.ofOneSymbol : Subscription :=
  { symbols := ["ESM4"], schema := .trades, symbology := .rawSymbol }

theorem Subscription.encode_ofOneSymbol :
    Subscription.ofOneSymbol.encode Settings.brief.subscriptionLimit =
      .ok "schema=trades|stype_in=raw_symbol|symbols=ESM4\n" := by
  have joined : joinSymbols Subscription.ofOneSymbol.symbols = .ok "ESM4" := rfl
  rw [encode, joined, ok_bind]
  exact if_neg (by decide)

theorem Session.connect_misleading (count : Nat) :
    ∃ session channel, connect .brief .misleading = (.ok session, channel) ∧
      (session.performAll (.request (.subscribe .ofOneSymbol) ::
          List.replicate count (.request .start))).channel.link.sent =
        [textBytes (Settings.brief.authentication "c0ffee"),
          textBytes "schema=trades|stype_in=raw_symbol|symbols=ESM4\n"]
          ++ List.replicate count (textBytes startLine) := by
  have isLine : ∀ line ∈ ["lsg", "cram=" ++ "c0ffee", "success=1|session_id=7"],
      Channel.IsLine (ByteBuffer.ofCapacity Settings.brief.bufferSize).capacity line := by
    decide
  have arrives : Link.misleading.pending = Channel.lineBytes "lsg"
      ++ Channel.lineBytes ("cram=" ++ "c0ffee")
      ++ Channel.lineBytes "success=1|session_id=7" ++ (textBytes "not DBN." ++ []) := by
    decide
  have accepted : parseResponse "success=1|session_id=7" = .ok 7 := rfl
  have admits : Link.misleading.Admits .brief "c0ffee" (textBytes "not DBN." ++ []) :=
    ⟨⟨rfl, rfl, by decide⟩, rfl, "lsg", "success=1|session_id=7", 7, arrives, isLine, accepted⟩
  exact starts_written_again admits (by decide) rfl Subscription.encode_ofOneSymbol count

/-- A run with two starts in vain. -/
theorem Session.writes_transcript_misleading :
    let actions : List SessionAction :=
      [.request (.subscribe .ofOneSymbol), .request .start, .request .start]
    ∃ session channel, connect .brief .misleading = (.ok session, channel) ∧
      ∃ challenge lines, (session.performAll actions).channel.link.sent =
          Link.misleading.sent ++ textBytes (Settings.brief.authentication challenge) :: lines ∧
        Transcript .brief (session.vainStarts actions) lines ∧
        (session.vainStarts actions = 0 → Settings.brief.Expects lines) := by
  intro actions
  obtain ⟨session, channel, connected, -⟩ := connect_misleading 2
  exact ⟨session, channel, connected,
    writes_transcript .brief .misleading session channel connected actions⟩

/-- A gateway that sends something else than metadata is asked again to start. -/
theorem Session.start_written_twice :
    let actions : List SessionAction :=
      [.request (.subscribe .ofOneSymbol), .request .start, .request .start]
    ∃ session channel, connect .brief .misleading = (.ok session, channel) ∧
      ¬ ∃ challenge lines, (session.performAll actions).channel.link.sent =
          Link.misleading.sent ++ textBytes (Settings.brief.authentication challenge) :: lines ∧
        Settings.brief.Expects lines := by
  intro actions
  obtain ⟨session, channel, connected, sent⟩ := connect_misleading 2
  refine ⟨session, channel, connected, ?_⟩
  rintro ⟨challenge, lines, same, expects⟩
  have lines_eq := (List.cons_eq_cons.mp (sent.symm.trans same)).2
  have expected : Settings.brief.Expects
      ([textBytes "schema=trades|stype_in=raw_symbol|symbols=ESM4\n"]
        ++ textBytes startLine :: [textBytes startLine]) := by
    rw [← lines_eq] at expects
    exact expects
  exact absurd expected.later_eq_nil (List.cons_ne_nil _ _)

end TickWire
