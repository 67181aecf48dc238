import TickWire.Command.Live
import TickWire.Proofs.Command.Replay
import TickWire.Proofs.Live.Authentication
import TickWire.Proofs.Live.Opening

/-!
# Live output

A session that is streamed up to a limit writes what a replay of a file with the same bytes
writes up to it.  Both take the same metadata off the front, both come to the same frames
however the gateway divides them, and both end with the last frame that is wanted, so
nothing that follows it has an influence.
-/

namespace TickWire

namespace LiveRun

variable {run : LiveRun} {frames found : List Frame} {wanted : Nat}

/-! ## The records -/

/-- A run over whose session frames come in, each of which can be decoded, and whose sink
refuses nothing. -/
structure IsCopying (run : LiveRun) (frames found : List Frame) : Prop where
  streaming : run.session.IsStreaming
  incoming_eq : run.session.channel.incoming = Frame.concat frames
  decode : Frame.DecodeTo run.session.version run.session.settings.policy run.session.stamped
    frames found
  isOpen : run.output.sink.IsOpen

/-- A run goes on where its session took bytes in front of frames and its output was written
to. -/
theorem IsCopying.of_took (copying : run.IsCopying frames found) {bytes : Bytes}
    {after : Session} (took : run.session.Took bytes after) {rest restFound : List Frame}
    (comes : after.channel.incoming = Frame.concat rest)
    (decode : Frame.DecodeTo run.session.version run.session.settings.policy
      run.session.stamped rest restFound)
    {output : RecordOutput} (isOpen : output.sink.IsOpen) (remaining? : Option Nat) :
    { run with session := after, output, remaining? }.IsCopying rest restFound where
  streaming := copying.streaming.of_took took
  incoming_eq := comes
  decode := by
    rw [← took.version_eq, ← took.settings_eq, ← took.stamped_eq] at decode
    exact decode
  isOpen := isOpen

/-- A record is written, and ends the run where it is the last one that is wanted. -/
theorem accept_run (isOpen : run.output.sink.IsOpen) (limited : run.remaining? = some wanted)
    (frame : Frame) :
    run.accept frame =
      let output := run.output.appended (run.output.shown frame)
      if wanted ≤ 1 then .error { run with output }.finish
      else .ok { run with output, remaining? := some (wanted - 1) } := by
  simp only [accept, RecordOutput.writeFrame_run isOpen, limited]

theorem place_finish (run : LiveRun) :
    run.finish.place = .present run.output.sink.written := by
  unfold finish
  split <;> rfl

/-- A run ends well where the link can be shut down. -/
theorem result_finish (copying : run.IsCopying frames found)
    (closes : run.session.channel.link.closeFailure? = none) : run.finish.result = .ok () := by
  have stopped : run.session.stop = (.ok (), run.session.stop.2) :=
    Prod.ext (Session.stop_ok closes) rfl
  rw [finish, stopped]
  dsimp only [report]
  rw [RecordOutput.finish_run copying.isOpen]
  rfl

/-- Every step of a run waits, or takes the next frame and writes what it decodes to; so the
run ends with the last frame that is wanted. -/
theorem complete_to_limit {bound : Nat} (copying : run.IsCopying frames found)
    (limited : run.remaining? = some wanted) (positive : 0 < wanted)
    (present : wanted ≤ frames.length)
    (enough : wanted + run.session.channel.link.timeouts ≤ bound) :
    ∃ (last : LiveRun) (rest restFound : List Frame),
      run.complete bound = last.finish ∧ last.IsCopying rest restFound ∧
      last.output = run.output.appended ((found.take wanted).flatMap run.output.shown) ∧
      run.session.channel.link.Ages last.session.channel.link := by
  -- The frames that are wanted and the timeouts that are left bound the steps to come.
  induction bound generalizing run frames found wanted with
  | zero => omega
  | succ bound ih =>
      rw [complete, step]
      generalize called : Session.nextRecord (some run.timeout) run.session = outcome
      cases called ▸ Session.nextRecord_outcome copying.streaming copying.incoming_eq
        (some run.timeout) with
      | ended => exact absurd positive (Nat.not_lt.mpr present)
      | @late _ after took timeouts =>
          have comes := took.channel.incoming_eq.symm.trans copying.incoming_eq
          have goesOn := copying.of_took took comes copying.decode copying.isOpen run.remaining?
          obtain ⟨last, rest, restFound, ended, lastCopying, written, ages⟩ :=
            ih goesOn limited positive present (by dsimp only; omega)
          exact ⟨last, rest, restFound, ended, lastCopying, written, took.ages.trans ages⟩
      | @next frame others after took =>
          have decode := copying.decode
          cases decode with
          | @cons _ shown _ others' decodeFirst decodeOthers =>
              have comes := took.incoming_of_frame copying.incoming_eq
              have isOpen : (run.output.appended (run.output.shown shown)).sink.IsOpen :=
                copying.isOpen.appended _
              have goesOn := copying.of_took took comes decodeOthers isOpen (some (wanted - 1))
              rw [Session.resultOf_of_decode decodeFirst]
              dsimp only
              have accepted := @accept_run { run with session := after } wanted copying.isOpen
                limited shown
              rw [accepted]
              dsimp only
              by_cases isLast : wanted ≤ 1
              · obtain rfl : wanted = 1 := Nat.le_antisymm isLast positive
                rw [if_pos isLast]
                exact ⟨_, others, others', rfl,
                  copying.of_took took comes decodeOthers isOpen run.remaining?, by simp,
                  took.ages⟩
              · have timeouts := took.channel.timeouts_le
                rw [if_neg isLast]
                rw [List.length_cons] at present
                obtain ⟨last, rest, restFound, ended, lastCopying, written, ages⟩ :=
                  ih goesOn rfl (by omega) (by omega) (by dsimp only; omega)
                refine ⟨last, rest, restFound, ended, lastCopying, ?_, took.ages.trans ages⟩
                rw [written, List.take_cons positive, List.flatMap_cons,
                  RecordOutput.appended_appended, RecordOutput.shown_appended]

/-! ## The opening -/

section Opening

variable {options : LiveOptions} {settings : Settings} {link : Link} {challenge line : String}
  {place : OutputPlace}

/-- A client that is let in is ready to start, and what follows depends on its start. -/
theorem ofLink_run (drafted : options.draft.finish = .ok settings) {later : Bytes}
    (admits : link.Admits settings challenge later)
    (encoded : options.subscription.encode settings.subscriptionLimit = .ok line)
    (place : OutputPlace) :
    ∃ (ready : Session) (written : List Bytes), ready.IsReady settings link written later ∧
      (∀ {error : LiveError} {after : Session}, ready.start = (.error error, after) →
        ofLink options link place =
          .error ⟨.error (.live error), after.channel.link.sent, place⟩) ∧
      ∀ {metadata : Metadata} {after : Session}, ready.start = (.ok metadata, after) →
        ofLink options link place = openOutput options place metadata after := by
  obtain ⟨session, channel, ready, connected, subscribed, isReady⟩ := admits.ready encoded
  have begun : begin options session = Session.start ready := bind_of_ok subscribed
  refine ⟨ready, _, isReady, ?_, ?_⟩
  · intro error after refused
    simp only [ofLink, drafted, connected, begun, refused]
  · intro metadata after started
    simp only [ofLink, drafted, connected, begun, started]

/-- A block that is read opens the output with what it holds. -/
theorem ofLink_block (drafted : options.draft.finish = .ok settings)
    (encoded : options.subscription.encode settings.subscriptionLimit = .ok line)
    (block : MetadataBlock) {later : Bytes}
    (admits : link.Admits settings challenge (block.bytes ++ later)) (place : OutputPlace) :
    ∃ ready session : Session, ready.Started block later session ∧
      session.settings.policy = options.output.policy ∧ link.Ages session.channel.link ∧
      ofLink options link place =
        openOutput options place (block.metadata.upgrade options.output.policy) session := by
  obtain ⟨ready, written, isReady, -, opens⟩ := ofLink_run drafted admits encoded place
  obtain ⟨session, ran, started⟩ := Session.start_run isReady.subscribed isReady.steady
    (by simp [isReady.unlimited]) isReady.roomy block isReady.incoming_eq
  have policy : ready.settings.policy = options.output.policy := by
    rw [isReady.settings_eq, (SettingsDraft.gives_of_finish drafted).policy_eq]
    rfl
  rw [policy] at ran
  exact ⟨ready, session, started, (congrArg Settings.policy started.settings_eq).trans policy,
    isReady.ages.trans started.ages, opens ran⟩

/-- An output that is opened begins a run. -/
theorem openOutput_run {metadata : Metadata} {session : Session} {output : RecordOutput}
    (opens : options.output.check place = .ok ())
    (started : RecordOutput.start options.output metadata = (.ok (), output)) :
    openOutput options place metadata session = .ok {
      session, output
      remaining? := options.output.limit.map fun limit => limit.value.toNat
      timeout := options.timeout.toNat } := by
  simp only [openOutput, opens, started]

/-- What is reported of a run that was begun depends on nothing but the session and the
output. -/
theorem live_of_opened {run : LiveRun} (opened : ofLink options link place = .ok run)
    {wanted : Nat} (limited : run.remaining? = some wanted) (positive : 0 < wanted)
    (copying : run.IsCopying frames found) (present : wanted ≤ frames.length) :
    ∃ (last : LiveRun) (rest restFound : List Frame),
      live options link place = last.finish ∧ last.IsCopying rest restFound ∧
      last.output = run.output.appended ((found.take wanted).flatMap run.output.shown) ∧
      run.session.channel.link.Ages last.session.channel.link := by
  rw [live, opened]
  apply complete_to_limit copying limited positive present
  have fewer : frames.length ≤ run.session.channel.incoming.length := by
    rw [copying.incoming_eq]
    exact Frame.length_le_concat frames
  have budget := run.session.channel.link.pending_lt_budget
  rw [Channel.incoming, List.length_append, ByteBuffer.length_unread] at fewer
  omega

end Opening

end LiveRun

/-! ## Live and replay -/

/-- A replay of all records with the output of a live run. -/
structure ReplayOptions.Mirrors (replayed : ReplayOptions) (streamed : LiveOptions) : Prop where
  output_eq : replayed.output = streamed.output
  unfiltered : replayed.schema? = none
  withRecords : replayed.metadataOnly = false

section Mirrors

variable {streamed : LiveOptions} {replayed : ReplayOptions} {settings : Settings} {link : Link}
  {challenge line : String} {file : InputFile} {frames : List Frame} {limit : NonZero}
  (mirrors : replayed.Mirrors streamed) (drafted : streamed.draft.finish = .ok settings)
  (encoded : streamed.subscription.encode settings.subscriptionLimit = .ok line)

include mirrors drafted encoded

omit mirrors in
/-- Where no decoder reads the metadata, nothing is written. -/
theorem live_as_replay_of_refused {start fields : Bytes} (whole : IsWholeBlock start fields)
    {error : Error} (refused : IsRefusedBlock start fields error)
    (admits : link.Admits settings challenge (start ++ fields ++ Frame.concat frames))
    (holds : file.bytes = start ++ fields ++ Frame.concat frames) (place : OutputPlace) :
    (live streamed link place).place = (replay replayed (some file) place).2 := by
  obtain ⟨ready, written, isReady, refuses, -⟩ :=
    LiveRun.ofLink_run drafted admits encoded place
  obtain ⟨after, failed⟩ := Session.start_refused isReady.subscribed isReady.steady
    (by simp [isReady.unlimited]) (Nat.le_trans (by decide) isReady.roomy) whole.length_start
    refused (by rw [isReady.incoming_eq, List.append_assoc])
  rw [List.append_assoc] at holds
  obtain ⟨fault, unread⟩ :=
    file.ofSource_refused whole.length_start refused holds replayed.output.policy
  have unprepared : prepareReplay replayed file = .error fault := by
    rw [prepareReplay, unread, error_bind]
  simp only [live, refuses failed, replay, unprepared]

variable (limited : streamed.output.limit = some limit) (block : MetadataBlock)
  (decodable : ∀ frame ∈ frames, ∃ found,
    frame.decodeAlone block.version streamed.output.policy block.metadata.stamped = .ok found)
  (present : limit.value.toNat ≤ frames.length)
  (admits : link.Admits settings challenge (block.bytes ++ Frame.concat frames))
  (holds : file.bytes = block.bytes ++ Frame.concat frames)

include limited decodable present admits holds

/-- Where the output opens, both write the frames up to the limit behind what it begins
with. -/
theorem live_and_replay_of_block {place : OutputPlace}
    (opens : streamed.output.check place = .ok ()) {output : RecordOutput}
    (started : RecordOutput.start streamed.output
      (block.metadata.upgrade streamed.output.policy) = (.ok (), output)) :
    ∃ found, Frame.DecodeTo block.version streamed.output.policy block.metadata.stamped
        frames found ∧
      let contents := output.sink.written ++
        (found.take limit.value.toNat).flatMap output.shown
      (live streamed link place).place = .present contents ∧
      (link.closeFailure? = none → (live streamed link place).result = .ok ()) ∧
      replay replayed (some file) place = (.ok (), .present contents) := by
  obtain ⟨found, decode⟩ := Frame.exists_decodeTo decodable
  refine ⟨found, decode, ?_⟩
  obtain ⟨ready, session, sessionStarted, policy, ages, opened⟩ :=
    LiveRun.ofLink_block drafted encoded block admits place
  have begun := opened.trans (LiveRun.openOutput_run opens started)
  have decodeSession : Frame.DecodeTo session.version session.settings.policy session.stamped
      frames found := by
    rw [sessionStarted.version_eq, policy, sessionStarted.stamped_eq]
    exact decode
  obtain ⟨last, rest, restFound, finished, copying, written, agesLast⟩ :=
    LiveRun.live_of_opened begun (by rw [limited, Option.map_some]) limit.toNat_pos
      ⟨sessionStarted.streaming, sessionStarted.incoming_eq, decodeSession,
        RecordOutput.isOpen_of_start started⟩ present
  have replayRuns := replay_to_limit mirrors.unfiltered mirrors.withRecords
    (mirrors.output_eq ▸ limited) (mirrors.output_eq ▸ opens) block holds
    (mirrors.output_eq ▸ decode) (mirrors.output_eq ▸ started)
  refine ⟨?_, ?_, replayRuns⟩
  · rw [finished, LiveRun.place_finish, written]
    rfl
  · intro closes
    rw [finished]
    apply LiveRun.result_finish copying
    rw [agesLast.closeFailure?_eq, ages.closeFailure?_eq, closes]

/-- Where the metadata is read, both write the same, whether or not the output opens. -/
theorem live_as_replay_of_block (place : OutputPlace) :
    (live streamed link place).place = (replay replayed (some file) place).2 := by
  obtain ⟨ready, session, -, -, -, opened⟩ :=
    LiveRun.ofLink_block drafted encoded block admits place
  have prepared := prepareReplay_block mirrors.unfiltered block holds
  rw [mirrors.output_eq] at prepared
  cases checked : streamed.output.check place with
  | error error =>
      simp only [live, opened, LiveRun.openOutput, replay, prepared, mirrors.output_eq, checked]
  | ok _ =>
      cases started : RecordOutput.start streamed.output
          (block.metadata.upgrade streamed.output.policy) with
      | mk result output =>
          cases result with
          | error error =>
              simp only [live, opened, LiveRun.openOutput, replay, prepared, replayInto,
                mirrors.output_eq, checked, started]
              rfl
          | ok _ =>
              obtain ⟨found, -, streams, -, replays⟩ := live_and_replay_of_block mirrors drafted
                encoded limited block decodable present admits holds checked started
              rw [streams, replays]

end Mirrors

/-- A session that is streamed up to a limit and a replay of a file with the same stream
write the same, for every metadata that can be encoded, frames that decode as it says, way
in which the gateway divides the stream, policy and form of output.  Where the metadata is
read and the output opens, that is the decoded frames up to the limit behind what the
output begins with, and both end well.  Where output is compressed, both hand the same to the
compressor. -/
theorem live_prints_as_replay (streamed : LiveOptions) (replayed : ReplayOptions)
    (mirrors : replayed.Mirrors streamed) (limit : NonZero)
    (limited : streamed.output.limit = some limit) (settings : Settings)
    (drafted : streamed.draft.finish = .ok settings) (line : String)
    (encoded : streamed.subscription.encode settings.subscriptionLimit = .ok line)
    (metadata : Metadata) (head : Bytes) (encodable : metadata.encode = .ok head)
    (frames : List Frame)
    (decodable : ∀ block : MetadataBlock, block.bytes = head → ∀ frame ∈ frames, ∃ found,
      frame.decodeAlone block.version streamed.output.policy block.metadata.stamped = .ok found)
    (present : limit.value.toNat ≤ frames.length) (link : Link) (challenge : String)
    (admits : link.Admits settings challenge (head ++ Frame.concat frames)) (file : InputFile)
    (holds : file.bytes = head ++ Frame.concat frames) (place : OutputPlace) :
    (live streamed link place).place = (replay replayed (some file) place).2 ∧
      ∀ block : MetadataBlock, block.bytes = head → streamed.output.check place = .ok () →
        ∀ output, RecordOutput.start streamed.output
            (block.metadata.upgrade streamed.output.policy) = (.ok (), output) →
          ∃ found, Frame.DecodeTo block.version streamed.output.policy block.metadata.stamped
              frames found ∧
            let contents := output.sink.written ++
              (found.take limit.value.toNat).flatMap output.shown
            (live streamed link place).place = .present contents ∧
            (link.closeFailure? = none → (live streamed link place).result = .ok ()) ∧
            replay replayed (some file) place = (.ok (), .present contents) := by
  constructor
  · obtain ⟨start, fields, rfl, whole⟩ := metadata.isWholeBlock_of_encode encodable
    cases whole.decoded_or_refused with
    | inl decoded =>
        obtain ⟨block, rfl, rfl⟩ := decoded
        exact live_as_replay_of_block mirrors drafted encoded limited block (decodable block rfl)
          present admits holds place
    | inr refused =>
        obtain ⟨error, refused⟩ := refused
        exact live_as_replay_of_refused drafted encoded whole refused admits holds place
  · intro block same opens output started
    obtain rfl := same
    exact live_and_replay_of_block mirrors drafted encoded limited block (decodable block rfl)
      present admits holds opens started

/-- What a client is told that writes one trade as text and upgrades what is old. -/
def LiveOptions.ofOneTrade : LiveOptions where
  key := "0123456789abcdef0123456789abcdef"
  dataset := "GLBX.MDP3"
  schema := .trades
  symbology := .rawSymbol
  symbols := ["ESM4"]
  start? := none
  stamped := false
  gateway? := some ("localhost", 13000)
  timeout := 1000
  output := { limit := some ⟨1, by decide⟩, upgrade := true }

/-- The settings of such a client. -/
def Settings.ofOneTrade : Settings where
  key := "0123456789abcdef0123456789abcdef"
  dataset := "GLBX.MDP3"
  host := "localhost"
  port := 13000
  stamped := false
  policy := .upgrade
  bufferSize := defaultBufferSize
  subscriptionLimit := defaultSubscriptionLimit
  frame_le_bufferSize := by decide
  subscriptionLimit_pos := by decide

/-- A stream of version 1 that arrives in pieces, the first of them with the end of the
greeting, of which one message is wanted. -/
theorem live_prints_as_replay_early :
    let block := (Metadata.isStorable_ofAllSymbols .asIs).block
    let message := (Record.initial ⟨.systemV1, false⟩).toFrame (by decide)
    let bytes := block.bytes ++ Frame.concat [message, RecordDecoder.bareFrame 0x00]
    let link : Link := {
      events := [.arrival (textBytes "lsg\ncram=c0"), .timeout,
        .arrival (textBytes "ffee\nsuccess=1|session_id=7\n" ++ bytes.take 5), .timeout,
        .arrival (bytes.drop 5)] }
    let options : ReplayOptions := {
      input := "early.dbn"
      output := LiveOptions.ofOneTrade.output }
    ∃ contents, (live .ofOneTrade link .absent).place = .present contents ∧
      (live .ofOneTrade link .absent).result = .ok () ∧
      replay options (some { bytes }) .absent = (.ok (), .present contents) := by
  intro block message bytes link options
  have drafted : LiveOptions.ofOneTrade.draft.finish = .ok .ofOneTrade := rfl
  have encoded : LiveOptions.ofOneTrade.subscription.encode
      Settings.ofOneTrade.subscriptionLimit =
        .ok "schema=trades|stype_in=raw_symbol|symbols=ESM4\n" := by
    have joined : joinSymbols LiveOptions.ofOneTrade.subscription.symbols = .ok "ESM4" := rfl
    rw [Subscription.encode, joined, ok_bind]
    exact if_neg (by decide)
  have proper : (Record.initial ⟨.systemV1, false⟩).IsProper := ⟨by decide, by decide⟩
  have changed : RecordKind.legacyOfTag? .system = some (.systemV1, .system) := rfl
  have decodable : ∀ other : MetadataBlock, other.bytes = block.bytes →
      ∀ frame ∈ [message, RecordDecoder.bareFrame 0x00], ∃ found,
        frame.decodeAlone other.version .upgrade other.metadata.stamped = .ok found := by
    intro other same frame member
    rw [MetadataBlock.eq_of_bytes same]
    rcases List.mem_cons.mp member with rfl | member
    · exact ⟨_, proper.decodeAlone_frame changed⟩
    · rcases List.mem_singleton.mp member with rfl
      exact ⟨_, rfl⟩
  have isLine : ∀ line ∈ ["lsg", "cram=" ++ "c0ffee", "success=1|session_id=7"],
      Channel.IsLine (ByteBuffer.ofCapacity Settings.ofOneTrade.bufferSize).capacity line := by
    decide
  have arrives : link.pending = Channel.lineBytes "lsg"
      ++ Channel.lineBytes ("cram=" ++ "c0ffee")
      ++ Channel.lineBytes "success=1|session_id=7" ++ bytes := by
    have greeting : Channel.lineBytes "lsg" ++ Channel.lineBytes ("cram=" ++ "c0ffee")
        ++ Channel.lineBytes "success=1|session_id=7" =
          textBytes "lsg\ncram=c0" ++ textBytes "ffee\nsuccess=1|session_id=7\n" := by
      decide
    rw [greeting]
    simp [link, Link.pending, LinkEvent.bytes]
  have admits : link.Admits .ofOneTrade "c0ffee" bytes :=
    ⟨⟨rfl, rfl, by simp [link, LinkEvent.isCalm]⟩, rfl, "lsg", "success=1|session_id=7", 7,
      arrives, isLine, rfl⟩
  obtain ⟨-, both⟩ := live_prints_as_replay .ofOneTrade options ⟨rfl, rfl, rfl⟩ ⟨1, by decide⟩
    rfl .ofOneTrade drafted _ encoded _ block.bytes
    (Metadata.isStorable_ofAllSymbols .asIs).encode_eq _ decodable (by decide) link "c0ffee"
    admits { bytes } rfl .absent
  obtain ⟨found, -, streams, ends, replays⟩ := both block rfl rfl ⟨false, {}⟩ rfl
  exact ⟨_, streams, ends rfl, replays⟩

end TickWire
