import TickWire.Proofs.Live.Lifecycle
import TickWire.Proofs.Live.ReplayStart

/-!
# The request to be let in

A client writes one request while it connects, in answer to the challenge.  The request says
what the settings say, in four fields.  The hash in it is unbroken whatever was hashed, but
the last characters of the key and the dataset go into the line as they are, and settings are
accepted whatever characters these hold.
-/

namespace TickWire

open Subscription (field fieldsOf forall_isUnbroken_fieldsOf)

/-! ## The fields of the request -/

theorem IsUnbroken.of_hex (bytes : Bytes) : IsUnbroken (Hex.encode bytes) where
  noBar member := absurd (Hex.mem_lowerDigits_of_mem_encode member) (by decide)
  noNewline member := absurd (Hex.mem_lowerDigits_of_mem_encode member) (by decide)

/-- Nothing of a reply but the last characters of the key can be broken. -/
theorem isUnbroken_challengeReply {challenge key : String} :
    IsUnbroken (challengeReply challenge key).toList ↔ IsUnbroken (bucketOf key) := by
  have dash : IsUnbroken ['-'] := by decide
  rw [challengeReply, String.toList_ofList, ← List.singleton_append, isUnbroken_append,
    isUnbroken_append]
  simp only [IsUnbroken.of_hex, dash, true_and]

/-- The fields of a request. -/
def requestFields (reply dataset : String) (stamped : Bool) : List (List Char) :=
  fieldsOf [("auth", reply.toList), ("dataset", dataset.toList), ("encoding", "dbn".toList),
    ("ts_out", (if stamped then "1" else "0").toList)]

theorem authenticationLine_eq (reply dataset : String) (stamped : Bool) :
    authenticationLine reply dataset stamped =
      Line.ofFields (requestFields reply dataset stamped) := by
  rw [← String.toList_inj]
  cases stamped <;>
    simp [authenticationLine, toString, Line.ofFields, requestFields, fieldsOf, field, Segment.join]

theorem forall_isUnbroken_requestFields {challenge key dataset : String} {stamped : Bool} :
    (∀ one ∈ requestFields (challengeReply challenge key) dataset stamped, IsUnbroken one) ↔
      IsUnbroken dataset.toList ∧ IsUnbroken (bucketOf key) := by
  have names : ∀ name ∈ ["auth", "dataset", "encoding", "ts_out"], IsUnbroken name.toList := by
    decide
  have encoding : IsUnbroken "dbn".toList := by decide
  have flag : IsUnbroken (if stamped then "1" else "0").toList := by
    cases stamped <;> decide
  rw [requestFields, forall_isUnbroken_fieldsOf (by exact names)]
  simp only [List.map_cons, List.map_nil, List.forall_mem_cons, List.not_mem_nil,
    false_implies, implies_true, isUnbroken_challengeReply, encoding, flag, and_true]
  exact and_comm

/-- A request is read as four fields exactly where the dataset and the last characters of the
key are unbroken. -/
theorem Settings.hasFields_authentication (settings : Settings) (challenge : String)
    {parts : List (List Char)} (four : parts.length = 4) :
    Line.HasFields (textBytes (settings.authentication challenge)) parts ↔
      parts = requestFields (challengeReply challenge settings.key) settings.dataset
          settings.stamped ∧
        IsUnbroken settings.dataset.toList ∧ IsUnbroken (bucketOf settings.key) := by
  have nonempty : requestFields (challengeReply challenge settings.key) settings.dataset
      settings.stamped ≠ [] := List.cons_ne_nil _ _
  rw [authentication, authenticationLine_eq, Line.hasFields_iff nonempty four,
    forall_isUnbroken_requestFields]

/-! ## Settings that were set -/

/-- What settings take from their draft as it is. -/
structure SettingsDraft.Gives (draft : SettingsDraft) (settings : Settings) : Prop where
  key?_eq : draft.key? = some settings.key
  dataset?_eq : draft.dataset? = some settings.dataset
  stamped_eq : settings.stamped = draft.stamped
  policy_eq : settings.policy = draft.policy

namespace SettingsDraft

variable {draft : SettingsDraft} {settings : Settings}

theorem key?_of_checkedKey {key : String} (checked : draft.checkedKey = .ok key) :
    draft.key? = some key := by
  unfold checkedKey at checked
  split at checked
  · cases checked
  next found isKey =>
    obtain ⟨-, -, given⟩ := ok_of_bind checked
    cases given
    exact isKey

theorem dataset?_of_checkedDataset {dataset : String}
    (checked : draft.checkedDataset = .ok dataset) : draft.dataset? = some dataset := by
  unfold checkedDataset at checked
  split at checked
  · cases checked
  next found isDataset =>
    split at checked
    · cases checked
    · cases checked
      exact isDataset

theorem gives_of_finish (finished : draft.finish = .ok settings) : draft.Gives settings := by
  obtain ⟨key, checkedKey, finished⟩ := ok_of_bind finished
  obtain ⟨dataset, checkedDataset, finished⟩ := ok_of_bind finished
  dsimp only at finished
  split at finished
  · cases finished
  split at finished
  · cases finished
  cases finished
  exact ⟨key?_of_checkedKey checkedKey, dataset?_of_checkedDataset checkedDataset, rfl, rfl⟩

end SettingsDraft

/-! ## What is written while a client connects -/

namespace Channel

/-- Nothing is written, however the step ends. -/
def StaysSilent (before : Channel) (_ : Option LiveError) (after : Channel) : Prop :=
  after.link.sent = before.link.sent

theorem isRule_staysSilent : IsRule StaysSilent where
  refl _ := rfl
  trans one two := Eq.trans two one

theorem obeys_readLine_silent (line : HandshakeLine) : Obeys StaysSilent (readLine line) :=
  fun channel => (obeys_readLine line channel).link.sent_eq

theorem obeys_lift_silent {α : Type} (result : Except LiveError α) :
    Obeys StaysSilent (liftM result : ChannelStep α) :=
  fun _ => rfl

theorem obeys_response_silent :
    Obeys StaysSilent (do parseResponse (← readLine .response)) :=
  obeys_response_of isRule_staysSilent obeys_readLine_silent obeys_lift_silent

/-- At most one request is written, in answer to some challenge. -/
def AsksOnce (settings : Settings) (before : Channel) (_ : Option LiveError)
    (after : Channel) : Prop :=
  after.link.sent = before.link.sent ∨
    ∃ challenge, after.link.sent =
      before.link.sent ++ [textBytes (settings.authentication challenge)]

theorem obeys_handshake_asksOnce (settings : Settings) :
    Obeys (AsksOnce settings) (handshake settings) := by
  refine obeys_handshake_of isRule_staysSilent obeys_readLine_silent obeys_lift_silent ?_
    (fun _ _ _ silent => .inl silent) ?_ ?_
  · intro before middle after failure? silent asks
    rwa [AsksOnce, silent] at asks
  · intro challenge before middle after failure? sends silent
    exact .inr ⟨challenge, silent.trans sends.sent_eq⟩
  · intro challenge before after error sends
    exact .inl (sends.sent_eq.trans (List.append_nil _))

end Channel

/-- A link over which a version and a challenge come in, whatever comes after them. -/
structure Link.Challenges (link : Link) (settings : Settings) (challenge : String) : Prop where
  steady : link.IsSteady
  writable : link.writesLeft? ≠ some 0
  arrives : ∃ version later,
    link.pending =
      Channel.lineBytes version ++ Channel.lineBytes ("cram=" ++ challenge) ++ later ∧
    ∀ line ∈ [version, "cram=" ++ challenge],
      Channel.IsLine (ByteBuffer.ofCapacity settings.bufferSize).capacity line

/-- A link over which a challenge comes in, in two pieces, and nothing after it. -/
def Link.challenging : Link where
  events := [.arrival (textBytes "lsg\ncram=c0"), .timeout, .arrival (textBytes "ffee\n")]

theorem Link.challenges_challenging (settings : Settings) :
    Link.challenging.Challenges settings "c0ffee" where
  steady := ⟨rfl, rfl, by decide⟩
  writable := by decide
  arrives := by
    have short : ∀ line ∈ ["lsg", "cram=" ++ "c0ffee"],
        Channel.IsLine frameMaximumSize line := by decide
    have room := Nat.le_trans settings.frame_le_bufferSize
      (ByteBuffer.le_capacity_ofCapacity settings.bufferSize)
    refine ⟨"lsg", [], by decide, fun line listed => ⟨(short line listed).oneLine, ?_⟩⟩
    have fits := (short line listed).length_le
    omega

namespace Session

theorem channel_connect (settings : Settings) (link : Link) :
    (connect settings link).2 =
      (Channel.handshake settings ⟨link, ByteBuffer.ofCapacity settings.bufferSize⟩).2 := by
  rw [connect]
  generalize Channel.handshake settings ⟨link, ByteBuffer.ofCapacity settings.bufferSize⟩ = outcome
  obtain ⟨result, channel⟩ := outcome
  cases result <;> rfl

/-- A challenge that comes in whole is answered, whatever follows it. -/
theorem sent_connect_of_challenges {settings : Settings} {link : Link} {challenge : String}
    (challenges : link.Challenges settings challenge) :
    (connect settings link).2.link.sent =
      link.sent ++ [textBytes (settings.authentication challenge)] := by
  obtain ⟨version, later, arrives, isLine⟩ := challenges.arrives
  let first : Channel := ⟨link, ByteBuffer.ofCapacity settings.bufferSize⟩
  have whole : first.incoming =
      Channel.lineBytes version ++ Channel.lineBytes ("cram=" ++ challenge) ++ later := by
    simpa [first, Channel.incoming] using arrives
  obtain ⟨asked, ran, sent, -⟩ :=
    first.handshake_asked settings challenges.steady challenges.writable whole isLine
  rw [channel_connect, ran]
  exact (Channel.obeys_response_silent asked).trans sent

/-- With settings that are accepted, a client writes at most one request while it connects,
and writes one where it gets a challenge.  The request is read as four fields that say what
was set exactly where the dataset and the last characters of the key hold neither a bar nor a
newline, and otherwise as no four fields. -/
theorem connect_request (draft : SettingsDraft) (settings : Settings)
    (finished : draft.finish = .ok settings) :
    (∀ link, (connect settings link).2.link.sent = link.sent ∨
      ∃ challenge, (connect settings link).2.link.sent =
        link.sent ++ [textBytes (settings.authentication challenge)]) ∧
    (∀ link challenge, link.Challenges settings challenge →
      (connect settings link).2.link.sent =
        link.sent ++ [textBytes (settings.authentication challenge)]) ∧
    ∃ key dataset, draft.key? = some key ∧ draft.dataset? = some dataset ∧
      ∀ challenge parts, parts.length = 4 →
        (Line.HasFields (textBytes (settings.authentication challenge)) parts ↔
          parts = requestFields (challengeReply challenge key) dataset draft.stamped ∧
            ('|' ∉ dataset.toList ∧ '\n' ∉ dataset.toList) ∧
            '|' ∉ bucketOf key ∧ '\n' ∉ bucketOf key) := by
  have gives := SettingsDraft.gives_of_finish finished
  refine ⟨fun link => ?_, fun link challenge => sent_connect_of_challenges, settings.key,
    settings.dataset, gives.key?_eq, gives.dataset?_eq, fun challenge parts four => ?_⟩
  · rw [channel_connect]
    exact Channel.obeys_handshake_asksOnce settings _
  · rw [settings.hasFields_authentication challenge four, gives.stamped_eq, isUnbroken_iff,
      isUnbroken_iff]

/-- A request that is read as it was set. -/
theorem connect_request_stamped :
    let draft : SettingsDraft :=
      { key? := some "db-0123456789abcdef0123456789abc", dataset? := some "GLBX.MDP3"
        stamped := true }
    ∃ settings, draft.finish = .ok settings ∧
      Link.challenging.Challenges settings "c0ffee" ∧
      (connect settings Link.challenging).2.link.sent =
        [textBytes (settings.authentication "c0ffee")] ∧
      Line.HasFields (textBytes (settings.authentication "c0ffee"))
        [field "auth" (challengeReply "c0ffee" "db-0123456789abcdef0123456789abc").toList,
          field "dataset" "GLBX.MDP3".toList, field "encoding" "dbn".toList,
          field "ts_out" "1".toList] := by
  intro draft
  obtain ⟨settings, finished⟩ : ∃ settings, draft.finish = .ok settings := ⟨_, rfl⟩
  obtain ⟨-, asks, key, dataset, hasKey, hasDataset, reads⟩ :=
    connect_request draft settings finished
  obtain rfl := Option.some.inj hasKey
  obtain rfl := Option.some.inj hasDataset
  have challenges := Link.challenges_challenging settings
  refine ⟨settings, finished, challenges, asks _ _ challenges, ?_⟩
  exact (reads "c0ffee" _ rfl).mpr ⟨by simp [requestFields, fieldsOf, draft], by decide, by decide⟩

/-- Settings that are accepted and with which the answer to a challenge is no four fields. -/
def AsksAmiss (draft : SettingsDraft) : Prop :=
  ∃ settings, draft.finish = .ok settings ∧
    (connect settings Link.challenging).2.link.sent =
      [textBytes (settings.authentication "c0ffee")] ∧
    ¬∃ parts, parts.length = 4 ∧
      Line.HasFields (textBytes (settings.authentication "c0ffee")) parts

theorem asksAmiss_of_broken {draft : SettingsDraft} {settings : Settings}
    (finished : draft.finish = .ok settings)
    (broken : ¬(IsUnbroken settings.dataset.toList ∧ IsUnbroken (bucketOf settings.key))) :
    AsksAmiss draft := by
  refine ⟨settings, finished, ?_, ?_⟩
  · exact sent_connect_of_challenges (Link.challenges_challenging settings)
  · rintro ⟨parts, four, read⟩
    exact broken ((settings.hasFields_authentication "c0ffee" four).mp read).2

/-- A dataset with a bar is accepted and sent as a fifth field, and a key that ends with a
newline as a second line. -/
theorem connect_request_broken :
    AsksAmiss { key? := some "db-0123456789abcdef0123456789abc"
                dataset? := some "GLBX.MDP3|ts_out=1" } ∧
      AsksAmiss { key? := some "db-0123456789abcdef0123456789ab\n"
                  dataset? := some "GLBX.MDP3" } :=
  ⟨asksAmiss_of_broken rfl (by decide), asksAmiss_of_broken rfl (by decide)⟩

end Session

end TickWire
