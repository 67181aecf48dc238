import TickWire.Proofs.Live.Lifecycle
import TickWire.Proofs.Live.Streaming

/-!
# Opening a session

A gateway that lets a client in leaves it with a session over which nothing but the stream
is still to come.  The client asks for data, and is then ready to start and to receive the
stream from its first byte.
-/

namespace TickWire

/-- A link over which a client is let in, and bytes come in after that. -/
structure Link.Admits (link : Link) (settings : Settings) (challenge : String)
    (later : Bytes) : Prop where
  steady : link.IsSteady
  unlimited : link.writesLeft? = none
  arrives : ∃ version response number,
    link.pending = Channel.lineBytes version ++ Channel.lineBytes ("cram=" ++ challenge)
      ++ Channel.lineBytes response ++ later ∧
    (∀ line ∈ [version, "cram=" ++ challenge, response],
      Channel.IsLine (ByteBuffer.ofCapacity settings.bufferSize).capacity line) ∧
    parseResponse response = .ok number

namespace Session

/-- A session that has asked for data over a link and can start, with a stream to come. -/
structure IsReady (session : Session) (settings : Settings) (link : Link)
    (written : List Bytes) (later : Bytes) : Prop where
  subscribed : session.state = .subscribed
  settings_eq : session.settings = settings
  steady : session.channel.link.IsSteady
  unlimited : session.channel.link.writesLeft? = none
  roomy : frameMaximumSize ≤ session.channel.buffer.capacity
  incoming_eq : session.channel.incoming = later
  ages : link.Ages session.channel.link
  timeouts_le : session.channel.link.timeouts ≤ link.timeouts
  sent_eq : session.channel.link.sent = link.sent ++ written

/-- A subscription over a steady link is written, and has no influence on what comes in. -/
theorem subscribe_run {session : Session} {subscription : Subscription} {line : String}
    (fit : session.state = .idle ∨ session.state = .subscribed)
    (steady : session.channel.link.IsSteady)
    (unlimited : session.channel.link.writesLeft? = none)
    (encoded : subscription.encode session.settings.subscriptionLimit = .ok line) :
    ∃ channel, session.subscribe subscription =
        (.ok (), { session with channel, state := .subscribed }) ∧
      channel.incoming = session.channel.incoming ∧ channel.link.IsSteady ∧
      session.channel.link.Ages channel.link ∧ channel.buffer = session.channel.buffer ∧
      channel.link.timeouts = session.channel.link.timeouts ∧
      channel.link.sent = session.channel.link.sent ++ [textBytes line] := by
  obtain ⟨channel, sent, incoming, steadyAfter, timeouts, buffer, written⟩ :=
    Channel.send_eq steady (by simp [unlimited]) .subscribing line
  have ages := ((Channel.obeys_send .subscribing line).of_run sent).ages
  refine ⟨channel, ?_, incoming, steadyAfter, ages, buffer, timeouts, written⟩
  have allowed : session.state ∈ [SessionState.idle, .subscribed] := by simpa using fit
  have running : session.state ≠ .stopped := by
    obtain was | was := fit <;> simp [was]
  rw [subscribe, bind_of_ok (require_run steady .subscribe allowed running),
    bind_of_ok (get_run _), encoded, bind_of_ok (lift_run _ _),
    bind_of_ok (onChannel_run sent)]
  exact modify_run _ _

end Session

/-- A client that is let in and asks for data is ready to start. -/
theorem Link.Admits.ready {link : Link} {settings : Settings} {challenge : String}
    {later : Bytes} (admits : link.Admits settings challenge later)
    {subscription : Subscription} {line : String}
    (encoded : subscription.encode settings.subscriptionLimit = .ok line) :
    ∃ session channel ready, Session.connect settings link = (.ok session, channel) ∧
      session.subscribe subscription = (.ok (), ready) ∧
      ready.IsReady settings link
        [textBytes (settings.authentication challenge), textBytes line] later := by
  obtain ⟨version, response, number, arrives, isLine, accepted⟩ := admits.arrives
  let first : Channel := ⟨link, ByteBuffer.ofCapacity settings.bufferSize⟩
  obtain ⟨channel, greeted, greeting, steady, incoming, capacity, timeouts⟩ :=
    first.handshake_run settings admits.steady (by simp [first, admits.unlimited]) arrives isLine
  have connected : Session.connect settings link =
      (.ok (settings.session channel number), channel) := by
    rw [Session.connect, greeted, accepted]
    rfl
  obtain ⟨-, -, ages, -⟩ := Session.connect_effect connected
  have idle : (settings.session channel number).state = .idle := rfl
  obtain ⟨after, ran, comes, steadyAfter, agesAfter, buffer, timeoutsAfter, written⟩ :=
    Session.subscribe_run (.inl idle) steady (ages.unlimited admits.unlimited) encoded
  have capacityAfter : after.buffer.capacity = first.buffer.capacity := by
    rw [buffer]
    exact capacity
  refine ⟨_, channel, _, connected, ran, ?_⟩
  exact {
    subscribed := rfl
    settings_eq := rfl
    steady := steadyAfter
    unlimited := agesAfter.unlimited (ages.unlimited admits.unlimited)
    roomy := capacityAfter ▸ Nat.le_trans settings.frame_le_bufferSize
      (ByteBuffer.le_capacity_ofCapacity settings.bufferSize)
    incoming_eq := comes.trans incoming
    ages := ages.trans agesAfter
    timeouts_le := timeoutsAfter ▸ timeouts
    sent_eq := by
      change channel.link.sent = link.sent ++ _ at greeting
      change after.link.sent = channel.link.sent ++ _ at written
      rw [written, greeting, List.append_assoc]
      rfl }

end TickWire
