import TickWire.Proofs.Live.Lifecycle
import TickWire.Proofs.Live.Waiting
import TickWire.Proofs.Live.Writes
import TickWire.Proofs.Metadata.Reader

/-!
# Bounds of the buffer

What cannot happen to a session, whatever its link does.  Settings leave room for the
greatest record, and before each read the unread bytes are moved to the front.  So there is
room wherever bytes are missing, records are aligned when they are taken, and only bytes that
have arrived are used.
-/

namespace TickWire

/-! ## Errors of what was sent -/

/-- Whether an error is about an argument of the caller. -/
def Error.isOfArguments : Error → Bool
  | badArgument _ => true
  | _ => false

/-- Whether an error is about the settings or an argument of the caller. -/
def LiveError.isOfArguments : LiveError → Bool
  | configuration _ => true
  | format error => error.isOfArguments
  | _ => false

/-- What is decoded is blamed for all errors, and not who decodes it. -/
def BlamesBytes {α : Type} (result : Except Error α) : Prop :=
  ∀ error, result = .error error → error.isOfArguments = false

namespace BlamesBytes

variable {α β : Type}

theorem ok (value : α) : BlamesBytes (.ok value) := nofun

theorem error {error : Error} (other : error.isOfArguments = false) :
    BlamesBytes (.error error : Except Error α) := by
  rintro _ ⟨⟩
  exact other

theorem bind {first : Except Error α} {next : α → Except Error β} (one : BlamesBytes first)
    (two : ∀ value, BlamesBytes (next value)) : BlamesBytes (first >>= next) := by
  cases first with
  | error failure => exact .error (one failure rfl)
  | ok value => exact two value

/-- A check before what is done next. -/
theorem optional {condition : Prop} [Decidable condition] {error : Error}
    {next : Except Error β} (other : error.isOfArguments = false) (two : BlamesBytes next) :
    BlamesBytes (if condition then throw error >>= fun (_ : α) => next else next) := by
  split
  · exact .error other
  · exact two

end BlamesBytes

namespace BlockReader

variable {α β : Type}

/-- A step through a block that blames its bytes wherever it begins. -/
def Blames (step : BlockReader α) : Prop := ∀ position, BlamesBytes (step position)

namespace Blames

theorem pure (value : α) : Blames (Pure.pure value) := fun _ => .ok _

theorem bind {step : BlockReader α} {next : α → BlockReader β} (one : Blames step)
    (two : ∀ value, Blames (next value)) : Blames (step >>= next) :=
  fun position => (one position).bind fun result => two result.1 result.2

theorem lift {result : Except Error α} (blames : BlamesBytes result) : Blames (liftM result) :=
  fun _ => blames.bind fun _ => .ok _

theorem throw {error : Error} (other : error.isOfArguments = false) :
    Blames (MonadExcept.throw error : BlockReader α) := fun _ => .error other

/-- A step that only some blocks need. -/
theorem optional {condition : Prop} [Decidable condition] {step : BlockReader α}
    {next : BlockReader β} (one : Blames step) (two : Blames next) :
    Blames (if condition then step >>= fun _ => next else next) := by
  split
  · exact one.bind fun _ => two
  · exact two

end Blames

theorem blames_take (count : Nat) (field : String) : Blames (take count field) := by
  intro position
  unfold take
  split
  · exact .ok _
  · exact .error rfl

theorem blames_number (width : Nat) (field : String) : Blames (number width field) :=
  (blames_take width field).bind fun _ => .pure _

theorem blamesBytes_textOf (field : String) (bytes : Bytes) :
    BlamesBytes (textOf field bytes) := by
  unfold textOf
  split
  · exact .ok _
  · exact .error rfl

theorem blames_text (width : Nat) (field : String) : Blames (text width field) :=
  (blames_take width field).bind fun _ => .lift (blamesBytes_textOf _ _)

theorem blamesBytes_textsOf (width : Nat) (field : String) (count index : Nat) (bytes : Bytes) :
    BlamesBytes (textsOf width field count index bytes) := by
  induction count generalizing index bytes with
  | zero => exact .ok _
  | succ count ih =>
      exact (blamesBytes_textOf _ _).bind fun _ => (ih _ _).bind fun _ => .ok _

theorem blames_texts (width : Nat) (field : String) : Blames (texts width field) :=
  (blames_number 4 field).bind fun _ => (blames_take _ field).bind fun _ =>
    .lift (blamesBytes_textsOf _ _ _ _ _)

theorem blamesBytes_member (α : Type) [Coded α] (code : Nat) : BlamesBytes (member α code) := by
  unfold member
  split
  · exact .ok _
  · exact .error rfl

theorem blames_optionalMember (α : Type) [Coded α] (width null : Nat) (field : String) :
    Blames (optionalMember α width null field) := by
  refine (blames_number width field).bind fun code => ?_
  split
  · exact .pure none
  · exact (Blames.lift (blamesBytes_member α code)).bind fun _ => .pure _

theorem blamesBytes_dateOf (raw : Nat) : BlamesBytes (dateOf raw) := by
  unfold dateOf
  dsimp only
  split
  · exact .error rfl
  split
  · exact .ok _
  · exact .error rfl

theorem blames_date (field : String) : Blames (date field) :=
  (blames_number 4 field).bind fun _ => .lift (blamesBytes_dateOf _)

theorem blames_intervals (width : Nat) (rawSymbol : String) (count index : Nat) :
    Blames (intervals width rawSymbol count index) := by
  induction count generalizing index with
  | zero => exact .pure []
  | succ count ih =>
      exact (blames_date _).bind fun _ => (blames_date _).bind fun _ =>
        (blames_text _ _).bind fun _ => (ih _).bind fun _ => .pure _

theorem blames_mappings (width count index : Nat) : Blames (mappings width count index) := by
  induction count generalizing index with
  | zero => exact .pure []
  | succ count ih =>
      exact (blames_text _ _).bind fun _ => (blames_number _ _).bind fun _ =>
        (blames_intervals _ _ _ _).bind fun _ => (ih _).bind fun _ => .pure _

theorem blames_symbolWidth (version : UInt8) : Blames (symbolWidth version) := by
  have checked (width : Nat) : Blames (do
      if width = 0 then throw (.decode .zeroSymbolWidth)
      return width : BlockReader Nat) := .optional (.throw rfl) (.pure width)
  unfold symbolWidth
  dsimp only
  split
  · exact checked symbolWidthV1
  · exact (blames_number _ _).bind checked

/-- Fields that cannot be read are reported as such. -/
theorem blames_metadata (version : UInt8) : Blames (metadata version) := by
  unfold metadata
  refine (blames_text _ _).bind fun dataset => ?_
  refine (blames_optionalMember _ _ _ _).bind fun schema => ?_
  refine (blames_number _ _).bind fun startTime => ?_
  refine (blames_number _ _).bind fun endTime => ?_
  refine (blames_number _ _).bind fun limit => ?_
  refine .optional (blames_take _ _) ?_
  refine (blames_optionalMember _ _ _ _).bind fun symbologyIn => ?_
  refine (blames_number _ _).bind fun code => ?_
  refine (Blames.lift (blamesBytes_member _ code)).bind fun symbologyOut => ?_
  refine (blames_number _ _).bind fun stamped => ?_
  refine (blames_symbolWidth version).bind fun width => ?_
  refine (blames_take _ _).bind fun reserved => ?_
  refine (blames_number _ _).bind fun definitionLength => ?_
  refine .optional (.throw rfl) ?_
  refine (blames_texts _ _).bind fun symbols => ?_
  refine (blames_texts _ _).bind fun partiallyFound => ?_
  refine (blames_texts _ _).bind fun notFound => ?_
  refine (blames_number _ _).bind fun mappingCount => ?_
  exact (blames_mappings _ _ _).bind fun mappings => .pure _

end BlockReader

theorem blamesBytes_checkVersion (version : UInt8) : BlamesBytes (checkVersion version) := by
  unfold checkVersion
  split
  · exact .ok _
  · exact .error rfl

theorem blamesBytes_decodeMetadata (version : UInt8) (bytes : Bytes) :
    BlamesBytes (decodeMetadata version bytes) :=
  (blamesBytes_checkVersion version).bind fun _ =>
    (BlockReader.blames_metadata version _).bind fun _ => .ok _

theorem blamesBytes_decodePrelude (bytes : Bytes) : BlamesBytes (decodePrelude bytes) := by
  have lengths (version : UInt8) (length : Nat) : BlamesBytes (do
      if length < metadataFixedSize then throw (.invalidLength (.metadataBelowFixed length))
      if metadataMaximumSize < length then
        throw (.invalidLength (.metadataBeyondMaximum length))
      return (version, length) : Except Error (UInt8 × Nat)) :=
    .optional rfl (.optional rfl (.ok _))
  exact .optional rfl ((blamesBytes_checkVersion _).bind fun _ => lengths _ _)

/-- A frame is refused for what it holds, not for where it lies. -/
theorem Frame.blamesBytes_decodeAlone (frame : Frame) (version : UInt8) (policy : UpgradePolicy)
    (stamped : Bool) : BlamesBytes (frame.decodeAlone version policy stamped) := by
  intro error refused
  obtain ⟨-, rfl⟩ | ⟨-, -, _, rfl⟩ := error_of_decodeAlone refused <;> rfl

namespace Session

variable {session : Session}

/-! ## Room for what is missing -/

/-- What a step does to a session: the buffer keeps its size, and where that is at least
`need` bytes, no error is about settings or arguments. -/
structure Excuses (need : Nat) (before : Session) (failure? : Option LiveError)
    (after : Session) : Prop where
  capacity_eq : after.channel.buffer.capacity = before.channel.buffer.capacity
  excuses : need ≤ before.channel.buffer.capacity →
    ∀ error ∈ failure?, error.isOfArguments = false

variable {need : Nat}

/-- Without an error there is nothing to excuse. -/
theorem Excuses.of_capacity_eq {after : Session}
    (same : after.channel.buffer.capacity = session.channel.buffer.capacity) :
    session.Excuses need none after where
  capacity_eq := same
  excuses _ _ failed := by cases failed

theorem Excuses.of_error {error : LiveError} {after : Session}
    (other : error.isOfArguments = false)
    (same : after.channel.buffer.capacity = session.channel.buffer.capacity) :
    session.Excuses need (some error) after where
  capacity_eq := same
  excuses _ _ failed := by
    cases failed
    exact other

theorem isRule_excuses (need : Nat) : IsRule (Excuses need) where
  refl _ := .of_capacity_eq rfl
  trans one two :=
    ⟨two.capacity_eq.trans one.capacity_eq,
      fun fits => two.excuses (one.capacity_eq.symm ▸ fits)⟩

/-- The end of a session is nobody's argument. -/
theorem Ended.excuses {error : LiveError} {after : Session} (ended : session.Ended error after) :
    session.Excuses need (some error) after := by
  have other : error.isOfArguments = false := by
    rw [ended.error_eq]
    split <;> rfl
  exact .of_error other ended.capacity_eq

theorem excuses_closed {α : Type} : Obeys (Excuses need) (closed : SessionStep α) := by
  intro session
  obtain ⟨error, after, ran, ended⟩ := closed_end (α := α) session
  rw [ran]
  exact ended.excuses

theorem excuses_require (operation : Operation) (allowed : List SessionState) :
    Obeys (Excuses need) (require operation allowed) := by
  intro session
  rw [require_eq]
  split
  · exact .of_error rfl rfl
  split
  · exact .of_error rfl rfl
  · exact .of_capacity_eq rfl

theorem excuses_send (activity : LinkActivity) (text : String) :
    Obeys (Excuses need) (onChannel (Channel.send activity text)) := by
  intro session
  rw [onChannel, Channel.send]
  cases session.channel.link.write (textBytes text) with
  | mk result link =>
      cases result with
      | error failure => exact .of_error rfl rfl
      | ok _ => exact .of_capacity_eq rfl

theorem excuses_decoded {α : Type} {result : Except Error α} (blames : BlamesBytes result) :
    Obeys (Excuses need) (decoded result) := by
  cases result with
  | ok value => exact .pure (isRule_excuses need) value
  | error error => exact .throw fun _ => .of_error (blames error rfl) rfl

/-- Where bytes are missing, there is room for them. -/
theorem excuses_awaitAllWithin (count bound : Nat) :
    Obeys (Excuses count) (awaitAllWithin count bound) := by
  induction bound with
  | zero => exact excuses_closed
  | succ bound ih =>
      intro session
      rw [awaitAllWithin, bind_of_ok (unread_run _)]
      split
      next => exact (isRule_excuses count).refl session
      next missing =>
        have goOn {arrived : Bytes} {value : Bool} {after : Session}
            (filled : fill none session = (.ok value, after))
            (passed : session.Passed arrived [] after) :
            session.Excuses count
              (error? ((fill none >>= fun _ => awaitAllWithin count bound) session).1)
              ((fill none >>= fun _ => awaitAllWithin count bound) session).2 := by
          rw [bind_of_ok filled]
          exact (isRule_excuses count).trans (.of_capacity_eq passed.capacity_eq) (ih after)
        generalize filled : fill none session = outcome
        cases filled ▸ session.fill_end none with
        | ended ended =>
            rw [bind_of_error filled]
            exact ended.excuses
        | late passed fewer => exact goOn filled passed
        | arrived passed nearer => exact goOn filled passed
        | failed passed =>
            rw [bind_of_error filled]
            exact .of_error rfl passed.capacity_eq
        | full noRoom passed =>
            rw [bind_of_error filled]
            exact ⟨passed.capacity_eq, fun fits => absurd (Nat.le_trans fits noRoom) missing⟩

theorem excuses_receive (count : Nat) : Obeys (Excuses count) (receive count) := by
  have isRule := isRule_excuses count
  refine .bind isRule isRule.refl fun bound => ?_
  refine .bind isRule (excuses_awaitAllWithin count bound) fun _ => ?_
  exact .bind isRule isRule.refl fun _ => .pure isRule _

theorem excuses_consume (count : Nat) : Obeys (Excuses need) (consume count) :=
  .modify fun _ => .of_capacity_eq rfl

theorem excuses_receivePastBuffer (count : Nat) :
    Obeys (Excuses need) (receivePastBuffer count) := by
  have isRule := isRule_excuses need
  refine .bind isRule isRule.refl fun front => ?_
  refine .bind isRule (.modify fun _ => .of_capacity_eq rfl) fun _ => ?_
  refine .get_bind fun session => ?_
  generalize session.channel.link.readExact (count - front.length) = outcome
  obtain ⟨result, link⟩ := outcome
  have moved : session.Excuses need none
      { session with channel := { session.channel with link } } := .of_capacity_eq rfl
  dsimp only
  rw [bind_of_ok (set_run _ _)]
  refine isRule.trans moved ?_
  split
  · exact isRule.refl _
  · exact excuses_closed _
  · exact .of_error rfl rfl

/-- Fields that do not fit into the buffer are received past it. -/
theorem excuses_receiveMetadata (version : UInt8) (length : Nat) :
    Obeys (Excuses need) (receiveMetadata version length) := by
  refine .get_bind fun session => ?_
  split
  next fits =>
    have isRule := isRule_excuses length
    have received : Obeys (Excuses length) (do
        let metadata ← decoded (decodeMetadata version (← receive length))
        consume length
        return metadata) :=
      .bind isRule (excuses_receive length) fun bytes =>
        .bind isRule (excuses_decoded (blamesBytes_decodeMetadata version bytes)) fun metadata =>
          .bind isRule (excuses_consume length) fun _ => .pure isRule metadata
    exact ⟨(received session).capacity_eq, fun _ => (received session).excuses fits⟩
  next =>
    have isRule := isRule_excuses need
    exact Obeys.bind isRule (excuses_receivePastBuffer length)
      (fun bytes => excuses_decoded (blamesBytes_decodeMetadata version bytes)) session

theorem excuses_start : Obeys (Excuses preludeSize) start := by
  have isRule := isRule_excuses preludeSize
  refine .bind isRule (excuses_require _ _) fun _ => ?_
  refine .bind isRule (excuses_send _ _) fun _ => ?_
  refine .bind isRule (excuses_receive _) fun bytes => ?_
  refine .bind isRule (excuses_decoded (blamesBytes_decodePrelude bytes)) fun prelude => ?_
  refine .bind isRule (excuses_consume _) fun _ => ?_
  refine .bind isRule (excuses_receiveMetadata _ _) fun metadata => ?_
  refine .bind isRule (.modify fun _ => .of_capacity_eq rfl) fun _ => ?_
  exact .bind isRule (.get isRule) fun session => .pure isRule _

theorem isOfArguments_of_waitFault {capacity : Nat} {error : LiveError}
    (fault : WaitFault capacity error) (roomy : frameMaximumSize ≤ capacity) :
    error.isOfArguments = false := by
  cases fault with
  | link => rfl
  | full narrow => exact absurd roomy (Nat.not_le.mpr narrow)
  | beyond narrow => exact absurd roomy (Nat.not_le.mpr narrow)

theorem excuses_nextRecord (timeout : Option Nat)
    (roomy : frameMaximumSize ≤ session.channel.buffer.capacity) (error : LiveError)
    (failed : (nextRecord timeout session).1 = .error error) : error.isOfArguments = false := by
  have called := session.nextRecord_end timeout
  generalize nextRecord timeout session = outcome at called failed
  cases called with
  | stopped | refused =>
      cases failed
      rfl
  | read streaming ended =>
      cases ended with
      | ended ended =>
          cases failed
          have excused : session.looked.Excuses 0 (some error) _ := ended.excuses
          exact excused.excuses (Nat.zero_le _) error rfl
      | late => cases failed
      | failed passed fault =>
          cases failed
          exact isOfArguments_of_waitFault fault roomy
      | short =>
          cases failed
          rfl
      | @taken arrived frame _ passed =>
          change session.looked.resultOf frame = .error error at failed
          cases decoded : frame.decodeAlone session.looked.version session.looked.settings.policy
              session.looked.stamped with
          | ok found =>
              rw [session.looked.resultOf_of_decode decoded] at failed
              cases failed
          | error refused =>
              rw [resultOf, decoded] at failed
              cases failed
              exact frame.blamesBytes_decodeAlone _ _ _ refused decoded

/-! ## Bytes that are used -/

/-- Goes on only where so many bytes are unread. -/
def checkUnread (fault : LiveError) (count : Nat) : SessionStep Unit := do
  if (← unread).length < count then throw fault

/-- `receive`, with a check of what is taken of the unread bytes. -/
def checkedReceive (fault : LiveError) (count : Nat) : SessionStep Bytes := do
  awaitAllWithin count (← budget)
  checkUnread fault count
  return (← unread).take count

/-- `receiveMetadata`, with checks of what is taken of the unread bytes, and that they are
not more than the fields. -/
def checkedReceiveMetadata (fault : LiveError) (version : UInt8) (length : Nat) :
    SessionStep Metadata := do
  if length ≤ (← get).channel.buffer.capacity then
    let metadata ← decoded (decodeMetadata version (← checkedReceive fault length))
    checkUnread fault length
    consume length
    return metadata
  else
    if length < (← unread).length then throw fault
    decoded (decodeMetadata version (← receivePastBuffer length))

/-- `start`, with a check before each use of the unread bytes. -/
def checkedStart (fault : LiveError) : SessionStep Metadata := do
  require .start [.subscribed]
  onChannel (Channel.send .starting startLine)
  let (version, length) ← decoded (decodePrelude (← checkedReceive fault preludeSize))
  checkUnread fault preludeSize
  consume preludeSize
  let metadata ← checkedReceiveMetadata fault version length
  modify fun session =>
    { session with version, stamped := metadata.stamped, state := .streaming }
  return metadata.upgrade (← get).settings.policy

/-- `nextRecord`, with a check before each use of the unread bytes. -/
def checkedNextRecord (fault : LiveError) (timeout : Option Nat) :
    SessionStep (Option Frame) := do
  require .nextRecord [.streaming]
  if !(← await 1 timeout) then return none
  checkUnread fault 1
  let size := Header.sizeOfLength ((← unread).headD 0)
  if size < headerSize then throw (.format (.invalidLength (.recordBelowHeader size)))
  let capacity := (← get).channel.buffer.capacity
  if capacity < size then throw (.configuration (.recordBeyondBuffer size capacity))
  if !(← await size timeout) then return none
  checkUnread fault size
  return some (← takeFrame size)

theorem checkUnread_run {count : Nat} (enough : count ≤ session.channel.buffer.unread.length)
    (fault : LiveError) : checkUnread fault count session = (.ok (), session) := by
  rw [checkUnread, bind_of_ok (unread_run _), if_neg (Nat.not_lt.mpr enough)]
  rfl

theorem eq_of_decoded {α : Type} {result : Except Error α} {value : α} {after : Session}
    (ran : decoded result session = (.ok value, after)) : after = session := by
  cases result with
  | error error => cases ran
  | ok found =>
      cases ran
      rfl

/-- Waiting succeeds only once the bytes are there. -/
theorem enough_of_awaitWithin {count bound : Nat} {timeout : Option Nat} {after : Session}
    (ran : awaitWithin count timeout bound session = (.ok true, after)) :
    count ≤ after.channel.buffer.unread.length := by
  induction bound generalizing session with
  | zero => cases ran
  | succ bound ih =>
      rw [awaitWithin, bind_of_ok (unread_run _)] at ran
      split at ran
      next whole =>
        cases ran
        exact whole
      next =>
        obtain ⟨arrived, middle, -, ran⟩ := ok_of_bind_run ran
        cases arrived with
        | false => cases ran
        | true => exact ih ran

theorem enough_of_await {count : Nat} {timeout : Option Nat} {after : Session}
    (ran : await count timeout session = (.ok true, after)) :
    count ≤ after.channel.buffer.unread.length := by
  obtain ⟨bound, middle, -, ran⟩ := ok_of_bind_run ran
  exact enough_of_awaitWithin ran

theorem enough_of_awaitAllWithin {count bound : Nat} {after : Session}
    (ran : awaitAllWithin count bound session = (.ok (), after)) :
    count ≤ after.channel.buffer.unread.length := by
  induction bound generalizing session with
  | zero =>
      obtain ⟨error, stopped, closes, -⟩ := closed_end (α := Unit) session
      rw [awaitAllWithin, closes] at ran
      cases ran
  | succ bound ih =>
      rw [awaitAllWithin, bind_of_ok (unread_run _)] at ran
      split at ran
      next whole =>
        cases ran
        exact whole
      next =>
        obtain ⟨arrived, middle, -, ran⟩ := ok_of_bind_run ran
        exact ih ran

theorem enough_of_receive {count : Nat} {bytes : Bytes} {after : Session}
    (ran : receive count session = (.ok bytes, after)) :
    count ≤ after.channel.buffer.unread.length := by
  obtain ⟨bound, first, -, ran⟩ := ok_of_bind_run ran
  obtain ⟨_, second, awaited, ran⟩ := ok_of_bind_run ran
  cases ran
  exact enough_of_awaitAllWithin awaited

theorem checkedReceive_eq (fault : LiveError) (count : Nat) :
    checkedReceive fault count = receive count := by
  funext session
  refine bind_congr_of_ok fun bound first _ => bind_congr_of_ok fun _ second awaited => ?_
  exact bind_of_ok (checkUnread_run (enough_of_awaitAllWithin awaited) fault)

theorem checkedReceiveMetadata_eq (fault : LiveError) (version : UInt8) (length : Nat) :
    checkedReceiveMetadata fault version length = receiveMetadata version length := by
  funext session
  rw [checkedReceiveMetadata, receiveMetadata, bind_of_ok (get_run _), bind_of_ok (get_run _),
    checkedReceive_eq]
  split
  next fits =>
    refine bind_congr_of_ok fun bytes first received => ?_
    refine bind_congr_of_ok fun metadata second accepted => ?_
    obtain rfl := eq_of_decoded accepted
    exact bind_of_ok (checkUnread_run (enough_of_receive received) fault)
  next beyond =>
    have within := session.channel.buffer.unreadLength_le_capacity
    rw [bind_of_ok (unread_run _), if_neg (by rw [ByteBuffer.length_unread]; omega)]

/-- No check of a start fails. -/
theorem checkedStart_eq (fault : LiveError) : checkedStart fault = start := by
  funext session
  rw [checkedStart, start, checkedReceive_eq]
  refine bind_congr_of_ok fun _ first _ => bind_congr_of_ok fun _ second _ => ?_
  refine bind_congr_of_ok fun bytes third received => ?_
  refine bind_congr_of_ok fun prelude fourth accepted => ?_
  obtain rfl := eq_of_decoded accepted
  obtain ⟨version, length⟩ := prelude
  simp only [checkedReceiveMetadata_eq]
  exact bind_of_ok (checkUnread_run (enough_of_receive received) fault)

/-- No check of a call for the next record fails. -/
theorem checkedNextRecord_eq (fault : LiveError) (timeout : Option Nat) :
    checkedNextRecord fault timeout = nextRecord timeout := by
  funext session
  refine bind_congr_of_ok fun _ first _ => bind_congr_of_ok fun arrived second awaited => ?_
  cases arrived with
  | false => rfl
  | true =>
      simp only [Bool.not_true, Bool.false_eq_true, if_false]
      rw [bind_of_ok (checkUnread_run (enough_of_await awaited) fault)]
      refine bind_congr_of_ok fun bytes third _ => ?_
      split
      · rfl
      refine bind_congr_of_ok fun found fourth _ => ?_
      split
      · rfl
      refine bind_congr_of_ok fun whole fifth awaited => ?_
      cases whole with
      | false => rfl
      | true =>
          simp only [Bool.not_true, Bool.false_eq_true, if_false]
          exact bind_of_ok (checkUnread_run (enough_of_await awaited) fault)

/-! ## Every session -/

/-- What cannot happen to a session. -/
structure IsBounded (session : Session) : Prop where
  consumed_le : session.channel.buffer.consumed ≤ session.channel.buffer.valid
  valid_le : session.channel.buffer.valid ≤ session.channel.buffer.capacity
  /-- There is room for every record. -/
  roomy : frameMaximumSize ≤ session.channel.buffer.capacity
  start_error : ∀ error, session.start.1 = .error error → error.isOfArguments = false
  nextRecord_error : ∀ timeout error,
    (session.nextRecord timeout).1 = .error error → error.isOfArguments = false
  /-- No more of the unread bytes is used than there is, so no check fails. -/
  start_checked : ∀ fault, session.checkedStart fault = session.start
  nextRecord_checked : ∀ fault timeout,
    session.checkedNextRecord fault timeout = session.nextRecord timeout

theorem isBounded_of_roomy (roomy : frameMaximumSize ≤ session.channel.buffer.capacity) :
    session.IsBounded where
  consumed_le := session.channel.buffer.consumed_le_valid
  valid_le := session.channel.buffer.valid_le_capacity
  roomy := roomy
  start_error error failed := by
    have fits : preludeSize ≤ session.channel.buffer.capacity := Nat.le_trans (by decide) roomy
    exact (excuses_start session).excuses fits error (by rw [failed]; rfl)
  nextRecord_error timeout := excuses_nextRecord timeout roomy
  start_checked fault := congrFun (checkedStart_eq fault) session
  nextRecord_checked fault timeout := congrFun (checkedNextRecord_eq fault timeout) session

end Session

theorem SessionAction.capacity_perform (action : SessionAction) (session : Session) :
    (action.perform session).channel.buffer.capacity = session.channel.buffer.capacity := by
  cases action with
  | request asked =>
      have answer := asked.answer session
      rw [perform]
      generalize asked.perform session = outcome at answer
      cases answer with
      | ended | refused => rfl
      | handled _ does => exact does.capacity_eq
  | stop => exact session.stop_effect.2.2.2.2
  | shutDown => rfl

namespace Session

/-- A session whose link has become another one. -/
def withLink (session : Session) (link : Link) : Session :=
  { session with channel := { session.channel with link } }

/-- The session after actions, before each of which its link becomes another one. -/
def performOver (session : Session) (steps : List (Link × SessionAction)) : Session :=
  steps.foldl (fun session step => step.2.perform (session.withLink step.1)) session

theorem capacity_performOver (session : Session) (steps : List (Link × SessionAction)) :
    (session.performOver steps).channel.buffer.capacity = session.channel.buffer.capacity := by
  induction steps generalizing session with
  | nil => rfl
  | cons step later ih =>
      exact (ih _).trans (step.2.capacity_perform (session.withLink step.1))

/-- In a session that was let in, no call finds its buffer too small or a record out of
place, and none uses more than what is unread, whatever the link has done and will do. -/
theorem bounded_throughout (settings : Settings) (link : Link) (session : Session)
    (channel : Channel) (connected : connect settings link = (.ok session, channel))
    (steps : List (Link × SessionAction)) (last : Link) :
    ((session.performOver steps).withLink last).IsBounded := by
  obtain ⟨-, -, -, capacity, -⟩ := connect_effect connected
  apply isBounded_of_roomy
  calc frameMaximumSize
      _ ≤ settings.bufferSize := settings.frame_le_bufferSize
      _ ≤ (ByteBuffer.ofCapacity settings.bufferSize).capacity :=
        ByteBuffer.le_capacity_ofCapacity _
      _ = session.channel.buffer.capacity := capacity.symm
      _ = ((session.performOver steps).withLink last).channel.buffer.capacity :=
        (session.capacity_performOver steps).symm

/-- Links that give more than there is room for, close with bytes, and fail. -/
theorem bounded_throughout_greedy :
    let greedy : Link := { events := [.answer ⟨List.replicate 70000 0, .ready⟩, .timeout] }
    let broken : Link := { events := [.answer ⟨[0x44, 0x42], .closed⟩, .failure "reset"] }
    ∃ session channel, connect .brief .misleading = (.ok session, channel) ∧
      ((session.performOver [(greedy, .request (.subscribe .ofOneSymbol)),
        (greedy, .request .start), (broken, .request (.nextRecord (some 5)))]).withLink
          broken).IsBounded := by
  intro greedy broken
  obtain ⟨session, channel, connected, -⟩ := connect_misleading 0
  exact ⟨session, channel, connected,
    bounded_throughout .brief .misleading session channel connected _ broken⟩

end Session

end TickWire
