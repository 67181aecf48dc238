import TickWire.Proofs.Live.Effects
import TickWire.Proofs.Live.Handshake
import TickWire.Proofs.Live.Session
import TickWire.Proofs.Metadata.RoundTrip

/-!
# Streaming

Each call for the next record gives one frame as it decodes alone, or nothing where a
read ended too early, or the end.  So the results of many calls are those of a file with
the same bytes, with nothing left out, repeated or shifted.
-/

namespace TickWire

namespace Channel

/-- After realigning, the unread bytes begin where a record may lie. -/
theorem aligned_realign (buffer : ByteBuffer) :
    (realign buffer).consumed % recordAlignment = 0 := by
  unfold realign
  split
  next aligned => exact aligned
  next => rw [buffer.consumed_compact, Nat.zero_mod]

theorem unread_realign (buffer : ByteBuffer) : (realign buffer).unread = buffer.unread := by
  unfold realign
  split
  · rfl
  · exact buffer.unread_compact

theorem took_realign {channel : Channel} (steady : channel.link.IsSteady) :
    channel.Took [] { channel with buffer := realign channel.buffer } where
  incoming_eq := by simp only [incoming, unread_realign, List.nil_append]
  steady := steady
  timeouts_le := Nat.le_refl _
  capacity_eq := capacity_realign channel.buffer
  frame := rfl

end Channel

theorem Frame.length_le_frameMaximumSize (frame : Frame) :
    frame.bytes.length ≤ frameMaximumSize := by
  have bound := (frame.bytes.headD 0).toNat_lt
  rw [frame.length_eq, Header.sizeOfLength, frameMaximumSize]
  omega

namespace Session

variable {session : Session}

/-- What a session gives for a frame. -/
def resultOf (session : Session) (frame : Frame) : Except LiveError (Option Frame) :=
  ((frame.decodeAlone session.version session.settings.policy session.stamped).mapError
    .format).map some

theorem resultOf_of_decode {frame found : Frame}
    (decoded : frame.decodeAlone session.version session.settings.policy session.stamped =
      .ok found) : session.resultOf frame = .ok (some found) := by
  rw [resultOf, decoded]
  rfl

/-- A frame is taken off the buffer and decodes as it does alone, wherever it lies. -/
theorem takeFrame_eq {frame : Frame} {following : Bytes}
    (front : session.channel.buffer.unread = frame.bytes ++ following) :
    ∃ upgradeBuffer, takeFrame frame.bytes.length session =
      ((frame.decodeAlone session.version session.settings.policy session.stamped).mapError
          .format,
        { session with
          channel := { session.channel with
            buffer := ((Channel.realign session.channel.buffer).advance frame.bytes.length).2 }
          upgradeBuffer }) := by
  have alone := decodeFrame_frame_eq (Channel.realign session.channel.buffer).consumed
    (Channel.aligned_realign _) session.version session.settings.policy session.stamped
    session.upgradeBuffer frame
  rw [takeFrame, bind_of_ok (get_run _)]
  simp only [ByteBuffer.take, Channel.unread_realign, front, List.take_left]
  rw [bind_of_ok (set_run _ _)]
  generalize decodeFrame session.version session.settings.policy session.stamped
    session.upgradeBuffer (Channel.realign session.channel.buffer).consumed frame.bytes =
    result at alone
  rw [← alone]
  cases result with
  | error error => exact ⟨session.upgradeBuffer, bind_of_error rfl⟩
  | ok found =>
      refine ⟨found.2, ?_⟩
      rw [bind_of_ok (decoded_run _ _)]
      exact bind_of_ok (modify_run _ _)

theorem takeFrame_run (steady : session.channel.link.IsSteady) {frame : Frame} {later : Bytes}
    (comes : session.channel.incoming = frame.bytes ++ later)
    (enough : frame.bytes.length ≤ session.channel.buffer.unread.length) :
    ∃ after, takeFrame frame.bytes.length session =
        ((frame.decodeAlone session.version session.settings.policy session.stamped).mapError
          .format, after) ∧
      session.Took frame.bytes after := by
  obtain ⟨following, front, -⟩ := Channel.unread_eq_append comes enough
  have realigned := Channel.took_realign steady
  have took := realigned.trans (Channel.took_advance realigned.steady
    (realigned.incoming_eq.symm.trans comes) (by rwa [Channel.unread_realign]))
  obtain ⟨upgradeBuffer, taken⟩ := takeFrame_eq front
  exact ⟨_, taken, took, rfl⟩

/-- Once a frame is taken, those behind it are still to come. -/
theorem Took.incoming_of_frame {frame : Frame} {others : List Frame} {after : Session}
    (took : session.Took frame.bytes after)
    (comes : session.channel.incoming = Frame.concat (frame :: others)) :
    after.channel.incoming = Frame.concat others := by
  rw [took.channel.incoming_eq, Frame.concat_cons] at comes
  exact List.append_cancel_left comes

/-- A session that receives records over a steady link, with room for every record. -/
structure IsStreaming (session : Session) : Prop where
  streaming : session.state = .streaming
  steady : session.channel.link.IsSteady
  roomy : frameMaximumSize ≤ session.channel.buffer.capacity

theorem IsStreaming.of_took (streaming : session.IsStreaming) {bytes : Bytes} {after : Session}
    (took : session.Took bytes after) : after.IsStreaming where
  streaming := took.state_eq.trans streaming.streaming
  steady := took.channel.steady
  roomy := took.channel.capacity_eq ▸ streaming.roomy

theorem resultOf_eq {bytes : Bytes} {after : Session} (took : session.Took bytes after) :
    after.resultOf = session.resultOf := by
  funext frame
  rw [resultOf, took.version_eq, took.settings_eq, took.stamped_eq, resultOf]

/-- How a call for the next record can end where frames come in. -/
inductive NextOutcome (session : Session) :
    List Frame → Except LiveError (Option Frame) × Session → Prop where
  /-- A read ended before the record was whole; what arrived of it stays. -/
  | late {frames : List Frame} {after : Session} (took : session.Took [] after)
      (timeouts : after.channel.link.timeouts < session.channel.link.timeouts) :
      NextOutcome session frames (.ok none, after)
  | next {frame : Frame} {others : List Frame} {after : Session}
      (took : session.Took frame.bytes after) :
      NextOutcome session (frame :: others) (session.resultOf frame, after)
  | ended {after : Session} (stopped : after.HasStopped) :
      NextOutcome session [] (.error .streamClosed, after)

/-- The first unread byte announces the size of the next frame. -/
theorem announced_of_unread {frames : List Frame}
    (comes : session.channel.incoming = Frame.concat frames)
    (enough : 1 ≤ session.channel.buffer.unread.length) :
    ∃ frame others, frames = frame :: others ∧
      Header.sizeOfLength (session.channel.buffer.unread.headD 0) = frame.bytes.length := by
  cases unread : session.channel.buffer.unread with
  | nil => simp [unread] at enough
  | cons byte bytes =>
      cases frames with
      | nil => simp [Channel.incoming, unread] at comes
      | cons frame others =>
          obtain ⟨first, _, split, size, -⟩ := frame.bytes_eq_cons
          obtain ⟨rfl, -⟩ : byte = first ∧ _ := by
            simpa [Channel.incoming, unread, split] using comes
          exact ⟨frame, others, rfl, by rw [split, List.length_cons, ← size, List.headD_cons]⟩

theorem NextOutcome.of_took {first : Session} {frames : List Frame}
    {outcome : Except LiveError (Option Frame) × Session} (took : session.Took [] first)
    (found : first.NextOutcome frames outcome) : session.NextOutcome frames outcome := by
  cases found with
  | late tookMore timeouts =>
      exact .late (took.trans tookMore)
        (Nat.lt_of_lt_of_le timeouts took.channel.timeouts_le)
  | next tookFrame =>
      rw [resultOf_eq took]
      exact .next (took.trans tookFrame)
  | ended stopped => exact .ended stopped

/-- Once the size of the next frame is known, the frame is waited for and taken. -/
theorem takeWhole_outcome (steady : session.channel.link.IsSteady) {frame : Frame}
    {others : List Frame} (comes : session.channel.incoming = Frame.concat (frame :: others))
    (fits : frame.bytes.length ≤ session.channel.buffer.capacity) (timeout : Option Nat) :
    session.NextOutcome (frame :: others) ((do
      if !(← await frame.bytes.length timeout) then return none
      return some (← takeFrame frame.bytes.length) : SessionStep (Option Frame)) session) := by
  rw [Frame.concat_cons] at comes
  generalize awaited : await frame.bytes.length timeout session = outcome
  cases awaited ▸ await_outcome steady fits timeout with
  | ended short stopped =>
      rw [comes, List.length_append] at short
      omega
  | late took timeouts =>
      rw [bind_of_ok awaited]
      exact .late took timeouts
  | whole took enough =>
      obtain ⟨after, taken, tookFrame⟩ := takeFrame_run took.channel.steady
        (took.channel.incoming_eq.symm.trans comes) enough
      rw [bind_of_true awaited, map_run taken some, ← resultOf]
      exact .of_took took (.next tookFrame)

theorem nextRecord_outcome (streaming : session.IsStreaming) {frames : List Frame}
    (comes : session.channel.incoming = Frame.concat frames) (timeout : Option Nat) :
    session.NextOutcome frames (nextRecord timeout session) := by
  have roomy := streaming.roomy
  rw [nextRecord, bind_of_ok (require_run streaming.steady .nextRecord
    (by simp [streaming.streaming]) (by simp [streaming.streaming]))]
  generalize awaited : await 1 timeout session = outcome
  cases awaited ▸ await_outcome streaming.steady (Nat.le_trans (by decide) roomy) timeout with
  | ended short stopped =>
      rw [bind_of_error awaited]
      cases frames with
      | nil => exact .ended stopped
      | cons frame others =>
          have header := frame.headerSize_le_length
          rw [headerSize] at header
          rw [comes, Frame.concat_cons, List.length_append] at short
          omega
  | late took timeouts =>
      rw [bind_of_ok awaited]
      exact .late took timeouts
  | @whole first took enough =>
      have comesFirst : first.channel.incoming = Frame.concat frames :=
        took.channel.incoming_eq.symm.trans comes
      obtain ⟨frame, others, rfl, size⟩ := announced_of_unread comesFirst enough
      have header := Nat.not_lt.mpr frame.headerSize_le_length
      have fits : frame.bytes.length ≤ first.channel.buffer.capacity :=
        Nat.le_trans frame.length_le_frameMaximumSize (took.channel.capacity_eq ▸ roomy)
      rw [bind_of_true awaited, bind_of_ok (unread_run _)]
      simp only [size, if_neg header]
      rw [bind_of_ok (get_run _)]
      simp only [if_neg (Nat.not_lt.mpr fits)]
      exact .of_took took (takeWhole_outcome took.channel.steady comesFirst fits timeout)

/-! ## Many calls -/

/-- The results of calls for the next record, one after the other. -/
def nextRecords : (timeouts : List (Option Nat)) → Session →
    List (Except LiveError (Option Frame)) × Session
  | [], session => ([], session)
  | timeout :: later, session =>
    let (result, session) := nextRecord timeout session
    let (results, session) := nextRecords later session
    (result :: results, session)

/-- Whether a call gave neither a record nor an error. -/
def gaveNothing : Except LiveError (Option Frame) → Bool
  | .ok none => true
  | _ => false

/-- The results other than nothing. -/
def given (results : List (Except LiveError (Option Frame))) :
    List (Except LiveError (Option Frame)) :=
  results.filter fun result => !gaveNothing result

theorem gaveNothing_resultOf (session : Session) (frame : Frame) :
    gaveNothing (session.resultOf frame) = false := by
  rw [resultOf]
  cases frame.decodeAlone session.version session.settings.policy session.stamped <;> rfl

theorem nextRecords_of_stopped (ended : session.HasStopped) (timeouts : List (Option Nat)) :
    (session.nextRecords timeouts).1 =
      List.replicate timeouts.length (.error .sessionClosed) := by
  induction timeouts with
  | nil => rfl
  | cons timeout later ih =>
      have refused : nextRecord timeout session = (.error .sessionClosed, session) := by
        rw [nextRecord, bind_of_error (require_of_stopped ended .nextRecord _)]
      simp only [nextRecords, refused, ih, List.length_cons, List.replicate_succ]

/-- What calls give where frames come in: a result for each frame in order, then the end
once, and from then on that the session is closed. -/
def streamResults (session : Session) (frames : List Frame) (calls : Nat) :
    List (Except LiveError (Option Frame)) :=
  frames.map session.resultOf ++ .error .streamClosed ::
    List.replicate calls (.error .sessionClosed)

theorem streamResults_cons (session : Session) (frame : Frame) (others : List Frame)
    (calls : Nat) :
    session.streamResults (frame :: others) calls =
      session.resultOf frame :: session.streamResults others calls := rfl

theorem streamResults_prefix_succ (session : Session) (frames : List Frame) (calls : Nat) :
    session.streamResults frames calls <+: session.streamResults frames (calls + 1) :=
  ⟨[.error .sessionClosed], by simp [streamResults, List.replicate_succ']⟩

theorem given_of_error (error : LiveError) (results : List (Except LiveError (Option Frame))) :
    given (.error error :: results) = .error error :: given results := rfl

/-- The results of calls are those of the frames in order; only a timeout of the link
makes a call give nothing. -/
theorem nextRecords_given (streaming : session.IsStreaming) {frames : List Frame}
    (comes : session.channel.incoming = Frame.concat frames) (timeouts : List (Option Nat)) :
    given (session.nextRecords timeouts).1 <+: session.streamResults frames timeouts.length ∧
      timeouts.length ≤
        (given (session.nextRecords timeouts).1).length + session.channel.link.timeouts := by
  -- The frames that still come in and the timeouts that are left bound the calls to come.
  induction timeouts generalizing session frames with
  | nil => simp [nextRecords, given]
  | cons timeout later ih =>
      rw [nextRecords, List.length_cons]
      generalize called : nextRecord timeout session = outcome
      cases called ▸ nextRecord_outcome streaming comes timeout with
      | @late _ after took timeouts =>
          obtain ⟨isPrefix, enough⟩ :=
            ih (streaming.of_took took) (took.channel.incoming_eq.symm.trans comes)
          rw [streamResults, resultOf_eq took, ← streamResults] at isPrefix
          refine ⟨isPrefix.trans (session.streamResults_prefix_succ frames _), ?_⟩
          change _ ≤ (given (after.nextRecords later).1).length + _
          omega
      | @next frame others after took =>
          obtain ⟨isPrefix, enough⟩ := ih (streaming.of_took took) (took.incoming_of_frame comes)
          rw [streamResults, resultOf_eq took, ← streamResults] at isPrefix
          have first : given (session.resultOf frame :: (after.nextRecords later).1) =
              session.resultOf frame :: given (after.nextRecords later).1 := by
            simp [given, gaveNothing_resultOf]
          have fewer := took.channel.timeouts_le
          simp only [first, streamResults_cons, List.length_cons]
          exact ⟨List.cons_prefix_cons.mpr ⟨rfl, isPrefix.trans
            (session.streamResults_prefix_succ others _)⟩, by omega⟩
      | @ended after stopped =>
          have rest : given (after.nextRecords later).1 =
              List.replicate later.length (.error .sessionClosed) := by
            simp [nextRecords_of_stopped stopped, given, gaveNothing]
          rw [given_of_error, rest]
          exact ⟨session.streamResults_prefix_succ [] later.length, by simp⟩

/-! ## From the start -/

/-- Receiving is no more than time passing for what it leaves alone. -/
theorem Took.ages {before after : Session} {bytes : Bytes} (took : before.Took bytes after) :
    before.channel.link.Ages after.channel.link := by
  rw [took.channel.frame]
  exact .of_eq rfl rfl rfl rfl

/-- What asking for the records leads to: the line is written, and the prelude of what comes
in has arrived. -/
structure Asked (before after : Session) : Prop where
  incoming_eq : after.channel.incoming = before.channel.incoming
  arrived : preludeSize ≤ after.channel.buffer.unread.length
  steady : after.channel.link.IsSteady
  timeouts_le : after.channel.link.timeouts ≤ before.channel.link.timeouts
  capacity_eq : after.channel.buffer.capacity = before.channel.buffer.capacity
  ages : before.channel.link.Ages after.channel.link
  sent_eq : after.channel.link.sent = before.channel.link.sent ++ [textBytes startLine]
  state_eq : after.state = before.state
  settings_eq : after.settings = before.settings

/-- What a start does with the prelude that it received. -/
def startFrom (prelude : Bytes) : SessionStep Metadata := do
  let (version, length) ← decoded (decodePrelude prelude)
  consume preludeSize
  let metadata ← receiveMetadata version length
  modify fun session =>
    { session with version, stamped := metadata.stamped, state := .streaming }
  return metadata.upgrade (← get).settings.policy

theorem start_asked (subscribed : session.state = .subscribed)
    (steady : session.channel.link.IsSteady)
    (writable : session.channel.link.writesLeft? ≠ some 0)
    (roomy : preludeSize ≤ session.channel.buffer.capacity) {prelude later : Bytes}
    (length : prelude.length = preludeSize)
    (comes : session.channel.incoming = prelude ++ later) :
    ∃ asked, session.Asked asked ∧ start session = startFrom prelude asked := by
  obtain ⟨channel, sent, incoming, steadySent, timeouts, buffer, written⟩ :=
    Channel.send_eq steady writable .starting startLine
  have ages := ((Channel.obeys_send .starting startLine).of_run sent).ages
  have steadyNow : { session with channel }.channel.link.IsSteady := steadySent
  have fits : prelude.length ≤ channel.buffer.capacity := by
    rw [buffer, length]
    exact roomy
  obtain ⟨asked, received, took, enough⟩ :=
    receive_run steadyNow fits (incoming.trans comes)
  rw [length] at received enough
  refine ⟨asked, ?_, ?_⟩
  · exact {
      incoming_eq := took.channel.incoming_eq.symm.trans incoming
      arrived := enough
      steady := took.channel.steady
      timeouts_le := timeouts ▸ took.channel.timeouts_le
      capacity_eq := took.channel.capacity_eq.trans (congrArg ByteBuffer.capacity buffer)
      ages := ages.trans took.ages
      sent_eq := took.channel.sent_eq.trans written
      state_eq := took.state_eq
      settings_eq := took.settings_eq }
  · rw [start, bind_of_ok (require_run steady .start (by simp [subscribed])
      (by simp [subscribed])), bind_of_ok (onChannel_run sent), bind_of_ok received]
    rfl

/-- What starting leads to: the metadata block is taken, and the records are received as
it says. -/
structure Started (before : Session) (block : MetadataBlock) (later : Bytes)
    (after : Session) : Prop where
  streaming : after.IsStreaming
  incoming_eq : after.channel.incoming = later
  timeouts_le : after.channel.link.timeouts ≤ before.channel.link.timeouts
  ages : before.channel.link.Ages after.channel.link
  settings_eq : after.settings = before.settings
  version_eq : after.version = block.version
  stamped_eq : after.stamped = block.metadata.stamped

theorem start_run (subscribed : session.state = .subscribed)
    (steady : session.channel.link.IsSteady)
    (writable : session.channel.link.writesLeft? ≠ some 0)
    (roomy : frameMaximumSize ≤ session.channel.buffer.capacity) (block : MetadataBlock)
    {later : Bytes} (comes : session.channel.incoming = block.bytes ++ later) :
    ∃ after, start session = (.ok (block.metadata.upgrade session.settings.policy), after) ∧
      session.Started block later after := by
  rw [MetadataBlock.bytes, List.append_assoc] at comes
  obtain ⟨asked, asks, ran⟩ := start_asked subscribed steady writable
    (Nat.le_trans (by decide) roomy) block.length_start comes
  have comesAsked := asks.incoming_eq.trans comes
  obtain ⟨second, consumed, tookStart⟩ := consume_run asks.steady comesAsked
    (block.length_start.symm ▸ asks.arrived)
  have comesSecond : second.channel.incoming = block.fields ++ later :=
    List.append_cancel_left (tookStart.channel.incoming_eq.symm.trans comesAsked)
  obtain ⟨third, receivedFields, tookFields⟩ :=
    receiveMetadata_run tookStart.channel.steady comesSecond block.fields_accepted
  have took := tookStart.trans tookFields
  rw [block.length_start] at consumed
  refine ⟨{ third with version := block.version, stamped := block.metadata.stamped,
                       state := .streaming }, ?_, ?_⟩
  · rw [ran, startFrom, block.start_accepted, bind_of_ok (decoded_run _ _)]
    simp only
    rw [bind_of_ok consumed, bind_of_ok receivedFields, bind_of_ok (modify_run _ _),
      bind_of_ok (get_run _), pure_run, took.settings_eq, asks.settings_eq]
  · have capacity := took.channel.capacity_eq.trans asks.capacity_eq
    exact {
      streaming := ⟨rfl, took.channel.steady, capacity ▸ roomy⟩
      incoming_eq :=
        List.append_cancel_left (tookFields.channel.incoming_eq.symm.trans comesSecond)
      timeouts_le := Nat.le_trans took.channel.timeouts_le asks.timeouts_le
      ages := asks.ages.trans took.ages
      settings_eq := took.settings_eq.trans asks.settings_eq
      version_eq := rfl
      stamped_eq := rfl }

/-- A block that is refused ends the start. -/
theorem start_refused (subscribed : session.state = .subscribed)
    (steady : session.channel.link.IsSteady)
    (writable : session.channel.link.writesLeft? ≠ some 0)
    (roomy : preludeSize ≤ session.channel.buffer.capacity) {prelude fields later : Bytes}
    (length : prelude.length = preludeSize) {error : Error}
    (refused : IsRefusedBlock prelude fields error)
    (comes : session.channel.incoming = prelude ++ (fields ++ later)) :
    ∃ after, start session = (.error (.format error), after) := by
  obtain ⟨asked, asks, ran⟩ := start_asked subscribed steady writable roomy length comes
  have comesAsked := asks.incoming_eq.trans comes
  obtain ⟨second, consumed, tookStart⟩ := consume_run asks.steady comesAsked
    (length.symm ▸ asks.arrived)
  have comesSecond : second.channel.incoming = fields ++ later :=
    List.append_cancel_left (tookStart.channel.incoming_eq.symm.trans comesAsked)
  rw [length] at consumed
  rw [ran, startFrom]
  cases refused with
  | start refused =>
      rw [refused]
      exact ⟨asked, bind_of_error rfl⟩
  | fields accepted refused =>
      obtain ⟨third, received⟩ :=
        receiveMetadata_refused tookStart.channel.steady comesSecond refused
      rw [accepted, bind_of_ok (decoded_run _ _)]
      simp only
      rw [bind_of_ok consumed]
      exact ⟨third, bind_of_error received⟩

/-- A session and a file decoder that are given the same bytes give the same metadata and
then, for each frame in order, the same record or the same error, however the link divides
the bytes and wherever its timeouts lie. -/
theorem streams_as_file (session : Session) (source : Source) (block : MetadataBlock)
    (frames : List Frame) (subscribed : session.state = .subscribed)
    (steady : session.channel.link.IsSteady)
    (writable : session.channel.link.writesLeft? ≠ some 0)
    (roomy : frameMaximumSize ≤ session.channel.buffer.capacity)
    (comes : session.channel.incoming = block.bytes ++ Frame.concat frames)
    (steadySource : source.IsSteady)
    (holds : source.rest = block.bytes ++ Frame.concat frames) :
    ∃ decoder started,
      FileDecoder.ofSource source session.settings.policy = .ok decoder ∧
      session.start = (.ok decoder.metadata, started) ∧
      ∀ timeouts : List (Option Nat),
        given (started.nextRecords timeouts).1 <+:
          (decoder.records.nextMany frames.length).1.map (Except.mapError .format) ++
            .error .streamClosed :: List.replicate timeouts.length (.error .sessionClosed) ∧
        timeouts.length ≤
          (given (started.nextRecords timeouts).1).length + session.channel.link.timeouts := by
  obtain ⟨started, ran, start⟩ := start_run subscribed steady writable roomy block comes
  let records : RecordDecoder := {
    source := source.advance block.bytes.length
    version := block.version
    policy := session.settings.policy
    stamped := block.metadata.stamped }
  have steadyRecords : records.source.IsSteady := steadySource.advance _
  have holdsRecords : records.source.rest = Frame.concat frames ++ [] := by
    simp [records, holds]
  obtain ⟨_, decoded, -⟩ := RecordDecoder.nextMany_of_frames steadyRecords frames holdsRecords
  have same : (records.nextMany frames.length).1.map (Except.mapError LiveError.format) =
      frames.map started.resultOf := by
    rw [decoded, List.map_map]
    refine List.map_congr_left fun frame _ => ?_
    rw [resultOf, start.version_eq, start.settings_eq, start.stamped_eq, Function.comp]
    cases frame.decodeAlone block.version session.settings.policy block.metadata.stamped <;> rfl
  refine ⟨_, started, FileDecoder.ofSource_block steadySource block holds _, ran, ?_⟩
  intro timeouts
  obtain ⟨isPrefix, enough⟩ := nextRecords_given start.streaming start.incoming_eq timeouts
  have fewer := start.timeouts_le
  rw [same]
  exact ⟨isPrefix, by omega⟩

/-- The prelude and the second record are each cut by a timeout, and the block ends within
the bytes that arrive with the first record. -/
theorem streams_as_file_in_pieces :
    let block := Metadata.isStorable_ofOneDay.block
    let frames := [RecordDecoder.bareFrame 0x15, RecordDecoder.bareFrame 0x00]
    let bytes := block.bytes ++ Frame.concat frames
    let link : Link := {
      events := [.arrival (bytes.take 5), .timeout, .arrival [],
        .arrival ((bytes.drop 5).take 188), .timeout, .arrival ((bytes.drop 5).drop 188)] }
    let session : Session := {
      settings := .smallest
      number := 7
      state := .subscribed
      channel := ⟨link, ByteBuffer.ofCapacity Settings.smallest.bufferSize⟩
      stamped := true }
    ∃ decoder started,
      FileDecoder.ofSource { rest := bytes } .upgrade = .ok decoder ∧
      session.start = (.ok decoder.metadata, started) ∧
      given (started.nextRecords [none, some 0, none, some 0, none]).1 <+:
        (decoder.records.nextMany 2).1.map (Except.mapError .format) ++
          .error .streamClosed :: List.replicate 5 (.error .sessionClosed) ∧
      5 ≤ (given (started.nextRecords [none, some 0, none, some 0, none]).1).length + 2 := by
  intro block frames bytes link session
  have comes : session.channel.incoming = bytes := by
    simp [session, link, Channel.incoming, Link.pending, LinkEvent.bytes, -List.drop_drop]
  obtain ⟨decoder, started, opened, ran, agree⟩ := streams_as_file session { rest := bytes }
    block frames rfl ⟨rfl, rfl, by simp [session, link, LinkEvent.isCalm]⟩ (by decide)
    (ByteBuffer.le_capacity_ofCapacity _) comes ⟨rfl, by simp⟩ rfl
  exact ⟨decoder, started, opened, ran, agree [none, some 0, none, some 0, none]⟩

end Session

end TickWire
