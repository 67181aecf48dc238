import TickWire.Proofs.Live.Channel

/-!
# The handshake over a steady link

Connecting reads three lines and writes one.  What it leads to depends on the lines and
the settings alone, however the gateway divides the bytes, and what follows the lines is
left for the session.
-/

namespace TickWire

/-- The line with which a client answers a challenge. -/
def Settings.authentication (settings : Settings) (challenge : String) : String :=
  authenticationLine (challengeReply challenge settings.key) settings.dataset settings.stamped

/-- A session that was let in with a number. -/
def Settings.session (settings : Settings) (channel : Channel) (number : UInt64) : Session :=
  { settings, number, channel, stamped := settings.stamped }

theorem Segment.dropOpening?_append (opening text : List Char) :
    dropOpening? opening (opening ++ text) = some text :=
  dropOpening?_eq_some_iff.mpr rfl

theorem parseChallenge_eq (challenge : String) :
    parseChallenge ("cram=" ++ challenge) = .ok challenge := by
  simp only [parseChallenge, String.toList_append, Segment.dropOpening?_append,
    String.ofList_toList]

namespace Channel

section Handshake

variable (channel : Channel) (settings : Settings) (steady : channel.link.IsSteady)
  (writable : channel.link.writesLeft? ≠ some 0) {version challenge : String} {rest : Bytes}

include steady writable

/-- The challenge is answered before anything that follows it is looked at. -/
theorem handshake_asked
    (whole : channel.incoming =
      lineBytes version ++ lineBytes ("cram=" ++ challenge) ++ rest)
    (isLine : ∀ line ∈ [version, "cram=" ++ challenge],
      IsLine channel.buffer.capacity line) :
    ∃ asked, handshake settings channel =
        (do parseResponse (← readLine .response) : ChannelStep UInt64) asked ∧
      asked.link.sent = channel.link.sent ++ [textBytes (settings.authentication challenge)] ∧
      asked.link.IsSteady ∧ asked.incoming = rest ∧
      asked.buffer.capacity = channel.buffer.capacity ∧
      asked.link.timeouts ≤ channel.link.timeouts := by
  simp only [List.forall_mem_cons, List.not_mem_nil] at isLine
  obtain ⟨versionIsLine, challengeIsLine, -⟩ := isLine
  rw [List.append_assoc] at whole
  obtain ⟨first, readVersion, tookVersion⟩ := readLine_eq steady .version whole versionIsLine
  have wholeFirst := List.append_cancel_left (tookVersion.incoming_eq.symm.trans whole)
  obtain ⟨second, readChallenge, tookChallenge⟩ := readLine_eq tookVersion.steady .challenge
    wholeFirst (tookVersion.capacity_eq ▸ challengeIsLine)
  have tookTwo := tookVersion.trans tookChallenge
  have wholeSecond :=
    List.append_cancel_left (tookChallenge.incoming_eq.symm.trans wholeFirst)
  obtain ⟨asked, sent, incoming, steadyAsked, timeouts, buffer, sentNow⟩ :=
    send_eq tookTwo.steady (by rwa [tookTwo.writesLeft?_eq]) .authenticating
      (settings.authentication challenge)
  refine ⟨asked, ?_, ?_, steadyAsked, incoming.trans wholeSecond, ?_, ?_⟩
  · rw [handshake, bind_of_ok readVersion, bind_of_ok readChallenge, parseChallenge_eq]
    rw [bind_of_ok (lift_run _ _), ← Settings.authentication, bind_of_ok sent]
  · rw [sentNow, tookTwo.sent_eq]
  · rw [buffer, tookTwo.capacity_eq]
  · exact timeouts ▸ tookTwo.timeouts_le

variable {response : String}
  (whole : channel.incoming = lineBytes version ++ lineBytes ("cram=" ++ challenge)
    ++ lineBytes response ++ rest)
  (isLine : ∀ line ∈ [version, "cram=" ++ challenge, response],
    IsLine channel.buffer.capacity line)

include whole isLine

theorem handshake_run :
    ∃ after, handshake settings channel = (parseResponse response, after) ∧
      after.link.sent = channel.link.sent ++ [textBytes (settings.authentication challenge)] ∧
      after.link.IsSteady ∧ after.incoming = rest ∧
      after.buffer.capacity = channel.buffer.capacity ∧
      after.link.timeouts ≤ channel.link.timeouts := by
  rw [List.append_assoc] at whole
  have isRequest : ∀ line ∈ [version, "cram=" ++ challenge],
      IsLine channel.buffer.capacity line :=
    fun line listed => isLine line (List.mem_append_left [response] listed)
  have responseIsLine : IsLine channel.buffer.capacity response := isLine response (by simp)
  obtain ⟨asked, ran, sent, steadyAsked, incoming, capacity, timeouts⟩ :=
    handshake_asked channel settings steady writable whole isRequest
  obtain ⟨after, readResponse, tookResponse⟩ :=
    readLine_eq steadyAsked .response incoming (capacity ▸ responseIsLine)
  refine ⟨after, ?_, ?_, tookResponse.steady, ?_, ?_, ?_⟩
  · rw [ran, bind_of_ok readResponse, lift_run]
  · rw [tookResponse.sent_eq, sent]
  · exact List.append_cancel_left (tookResponse.incoming_eq.symm.trans incoming)
  · rw [tookResponse.capacity_eq, capacity]
  · exact Nat.le_trans tookResponse.timeouts_le timeouts

theorem handshake_eq :
    ∃ after, handshake settings channel = (parseResponse response, after) ∧
      after.link.sent = channel.link.sent ++ [textBytes (settings.authentication challenge)] ∧
      after.link.IsSteady ∧ after.incoming = rest := by
  obtain ⟨after, ran, sent, steadyAfter, incoming, -⟩ :=
    handshake_run channel settings steady writable whole isLine
  exact ⟨after, ran, sent, steadyAfter, incoming⟩

end Handshake

end Channel

/-- What connecting leads to is what the response says; one request is written, and what
follows the response is left. -/
theorem Session.connect_lines (settings : Settings) (link : Link) (steady : link.IsSteady)
    (writable : link.writesLeft? ≠ some 0) (version challenge response : String)
    (rest : Bytes)
    (arrives : link.pending = Channel.lineBytes version
      ++ Channel.lineBytes ("cram=" ++ challenge) ++ Channel.lineBytes response ++ rest)
    (isLine : ∀ line ∈ [version, "cram=" ++ challenge, response],
      Channel.IsLine (ByteBuffer.ofCapacity settings.bufferSize).capacity line) :
    ∃ channel : Channel,
      Session.connect settings link =
        ((parseResponse response).map (settings.session channel), channel) ∧
      channel.link.sent = link.sent ++ [textBytes (settings.authentication challenge)] ∧
      channel.link.IsSteady ∧ channel.incoming = rest := by
  obtain ⟨channel, result, sent, steadyAfter, left⟩ := Channel.handshake_eq
    ⟨link, ByteBuffer.ofCapacity settings.bufferSize⟩ settings steady writable
    (by simpa [Channel.incoming] using arrives) isLine
  refine ⟨channel, ?_, sent, steadyAfter, left⟩
  rw [connect, result]
  cases parseResponse response <;> rfl

/-- Settings with the smallest buffer that is allowed. -/
def Settings.smallest : Settings where
  key := "0123456789abcdef0123456789abcdef"
  dataset := "GLBX.MDP3"
  host := "localhost"
  port := gatewayPort
  stamped := true
  policy := .upgrade
  bufferSize := frameMaximumSize
  subscriptionLimit := 1
  frame_le_bufferSize := Nat.le_refl _
  subscriptionLimit_pos := Nat.one_pos

/-- A line is cut in the middle, two ends of lines arrive at once, and the records begin
to arrive with the last of them. -/
theorem Session.connect_pieces :
    let link : Link := {
      events := [.arrival (textBytes "lsg-"), .timeout,
        .arrival (textBytes "test\ncram=c0ffee\nsucc"), .arrival [],
        .arrival (textBytes "ess=1|session_id=7\nDB"), .timeout, .arrival (textBytes "N")]
      writesLeft? := some 1 }
    ∃ channel : Channel,
      Session.connect .smallest link = (.ok (Settings.smallest.session channel 7), channel) ∧
      channel.link.sent = [textBytes (Settings.smallest.authentication "c0ffee")] ∧
      channel.link.IsSteady ∧ channel.incoming = textBytes "DBN" := by
  intro link
  have isLine : ∀ line ∈ ["lsg-test", "cram=" ++ "c0ffee", "success=1|session_id=7"],
      Channel.IsLine (ByteBuffer.ofCapacity Settings.smallest.bufferSize).capacity line := by
    simp only [List.forall_mem_cons, List.not_mem_nil, false_implies, implies_true, and_true]
    exact ⟨⟨by decide, by decide⟩, ⟨by decide, by decide⟩, ⟨by decide, by decide⟩⟩
  exact connect_lines .smallest link ⟨rfl, rfl, by decide⟩ (by decide) "lsg-test" "c0ffee"
    "success=1|session_id=7" (textBytes "DBN") (by decide) isLine

end TickWire
