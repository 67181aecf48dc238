import TickWire.Proofs.Stream.Framing
import TickWire.Proofs.Stream.Lazy
import TickWire.Stream.Encoder

/-!
# Copying frames

A copy ends at the limit, where the decoder ends or fails, or at the first write that fails,
whichever comes first.  However it ends, what was written is a row of whole frames, the first
ones that the decoder gave.  Nothing is read after the frame that reaches the limit, and what
was written is passed on once, unless reading or writing failed.
-/

namespace TickWire

namespace RecordDecoder

variable {decoder : RecordDecoder} {frames : List Frame} {ending : Except Error Unit}

/-! ## What a decoder gives -/

/-- What a decoder gives when it is asked again and again: frames, and then its end or an
error. -/
def Gives (decoder : RecordDecoder) (frames : List Frame) (ending : Except Error Unit) : Prop :=
  (decoder.nextMany (frames.length + 1)).1 =
    frames.map (fun frame => .ok (some frame)) ++ [ending.map fun _ => none]

theorem gives_nil_iff :
    decoder.Gives [] ending ↔ decoder.next.1 = ending.map fun _ => none := by
  rw [Gives, List.length_nil, results_nextMany_succ]
  simp [nextMany]

theorem gives_cons_iff {frame : Frame} :
    decoder.Gives (frame :: frames) ending ↔
      decoder.next.1 = .ok (some frame) ∧ decoder.next.2.Gives frames ending := by
  rw [Gives, List.length_cons, results_nextMany_succ, List.map_cons, List.cons_append,
    List.cons.injEq, Gives]

/-- Every frame takes bytes, so every decoder ends or fails. -/
theorem exists_gives (decoder : RecordDecoder) : ∃ frames ending, decoder.Gives frames ending := by
  match read : decoder.next with
  | (.ok none, _) => exact ⟨[], .ok (), gives_nil_iff.mpr (congrArg Prod.fst read)⟩
  | (.error error, _) => exact ⟨[], .error error, gives_nil_iff.mpr (congrArg Prod.fst read)⟩
  | (.ok (some frame), after) =>
      have fewer := rest_lt_of_next read
      obtain ⟨frames, ending, gives⟩ := exists_gives after
      refine ⟨frame :: frames, ending, gives_cons_iff.mpr ?_⟩
      rw [read]
      exact ⟨rfl, gives⟩
termination_by decoder.source.rest.length

/-- There are no more frames than bytes. -/
theorem Gives.length_le (gives : decoder.Gives frames ending) :
    frames.length ≤ decoder.source.rest.length := by
  induction frames generalizing decoder with
  | nil => exact Nat.zero_le _
  | cons frame others ih =>
      obtain ⟨read, following⟩ := gives_cons_iff.mp gives
      exact Nat.lt_of_le_of_lt (ih following) (rest_lt_of_next (Prod.ext read rfl))

end RecordDecoder

namespace Writer

variable {σ : Type} (writer : Writer σ)

/-! ## What a writer takes -/

/-- The number of frames that are written before the first write that fails. -/
def accepted : σ → List Frame → Nat
  | _, [] => 0
  | state, frame :: others =>
    match writer.write state frame.bytes with
    | (.error _, _) => 0
    | (.ok (), after) => accepted after others + 1

/-- The writer after frames. -/
def afterFrames : σ → List Frame → σ
  | state, [] => state
  | state, frame :: others => afterFrames (writer.write state frame.bytes).2 others

/-- The number of frames that are copied: no more than the limit, than there are, and than
are written before a write fails. -/
def copied (state : σ) (frames : List Frame) (limit? : Option Nat) : Nat :=
  let given := min frames.length (writer.accepted state frames)
  limit?.elim given (min given)

variable {writer} {state after : σ} {frame : Frame} {frames others : List Frame}
  {limit? : Option Nat} {count : Nat}

theorem accepted_of_ok (wrote : writer.write state frame.bytes = (.ok (), after)) :
    writer.accepted state (frame :: others) = writer.accepted after others + 1 := by
  rw [accepted, wrote]

theorem accepted_of_error {failure : IoFailure}
    (refused : writer.write state frame.bytes = (.error failure, after)) :
    writer.accepted state (frame :: others) = 0 := by
  rw [accepted, refused]

theorem writeFrame_of_ok (wrote : writer.write state frame.bytes = (.ok (), after)) :
    writer.writeFrame state frame = (.ok (), after) := by
  rw [writeFrame, wrote]
  rfl

theorem writeFrame_of_error {failure : IoFailure}
    (refused : writer.write state frame.bytes = (.error failure, after)) :
    writer.writeFrame state frame =
      (.error (.io failure s!"serializing a record of {frame.size} bytes"), after) := by
  rw [writeFrame, refused]
  rfl

theorem afterFrames_of_ok (wrote : writer.write state frame.bytes = (.ok (), after)) :
    writer.afterFrames state (frame :: others) = writer.afterFrames after others := by
  rw [afterFrames, wrote]

/-- Frames that are all accepted are written one after the other. -/
theorem written_afterFrames (within : count ≤ writer.accepted state frames) :
    writer.written (writer.afterFrames state (frames.take count)) =
      writer.written state ++ Frame.concat (frames.take count) := by
  induction frames generalizing state count with
  | nil => simp [afterFrames]
  | cons frame others ih =>
      cases count with
      | zero => simp [afterFrames]
      | succ count =>
          match wrote : writer.write state frame.bytes with
          | (.error failure, after) =>
              rw [accepted_of_error wrote] at within
              cases within
          | (.ok (), after) =>
              rw [accepted_of_ok wrote] at within
              rw [List.take_succ_cons, afterFrames_of_ok wrote,
                ih (Nat.le_of_succ_le_succ within), writer.written_of_ok wrote,
                Frame.concat_cons, List.append_assoc]

theorem copied_le_accepted : writer.copied state frames limit? ≤ writer.accepted state frames := by
  cases limit? <;> simp only [copied, Option.elim] <;> omega

theorem copied_le_limit {limit : Nat} (limited : limit? = some limit) :
    writer.copied state frames limit? ≤ limit := by
  simp only [copied, limited, Option.elim]
  omega

theorem copied_nil : writer.copied state [] limit? = 0 := by
  cases limit? <;> simp [copied, accepted]

theorem copied_of_error {failure : IoFailure}
    (refused : writer.write state frame.bytes = (.error failure, after)) :
    writer.copied state (frame :: others) limit? = 0 := by
  cases limit? <;> simp [copied, accepted_of_error refused]

/-- A frame that is written leaves one less to the limit. -/
theorem copied_of_ok (positive : limit? ≠ some 0)
    (wrote : writer.write state frame.bytes = (.ok (), after)) :
    writer.copied state (frame :: others) limit? =
      writer.copied after others (limit?.map (· - 1)) + 1 := by
  cases limit? with
  | none =>
      simp only [copied, accepted_of_ok wrote, List.length_cons, Option.elim, Option.map_none]
      omega
  | some limit =>
      have : limit ≠ 0 := fun zero => positive (congrArg some zero)
      simp only [copied, accepted_of_ok wrote, List.length_cons, Option.elim, Option.map_some]
      omega

end Writer

/-! ## How a copy ends -/

/-- How a copy of so many frames ends: with its result, the decoder after so many questions,
and the writer. -/
inductive CopyEnd {σ : Type} (writer : Writer σ) (decoder : RecordDecoder) (state : σ)
    (frames : List Frame) (ending : Except Error Unit) (limit? : Option Nat) (count : Nat) :
    Except Error Unit × RecordDecoder × σ → Prop
  /-- The limit is reached, and the decoder is not asked again. -/
  | limited (reached : limit? = some count) :
      CopyEnd writer decoder state frames ending limit? count
        (writer.finish (decoder.nextMany count).2
          (writer.afterFrames state (frames.take count)))
  /-- The decoder ends. -/
  | ended (below : limit? ≠ some count) (whole : count = frames.length)
      (last : ending = .ok ()) :
      CopyEnd writer decoder state frames ending limit? count
        (writer.finish (decoder.nextMany (count + 1)).2
          (writer.afterFrames state (frames.take count)))
  /-- The decoder fails. -/
  | unread (below : limit? ≠ some count) (whole : count = frames.length) {error : Error}
      (last : ending = .error error) :
      CopyEnd writer decoder state frames ending limit? count
        (.error error, (decoder.nextMany (count + 1)).2,
          writer.afterFrames state (frames.take count))
  /-- The next frame cannot be written. -/
  | refused (below : limit? ≠ some count) (present : count < frames.length)
      {failure : IoFailure} {after : σ}
      (fails : writer.write (writer.afterFrames state (frames.take count)) frames[count].bytes =
        (.error failure, after)) :
      CopyEnd writer decoder state frames ending limit? count
        (.error (.io failure s!"serializing a record of {frames[count].size} bytes"),
          (decoder.nextMany (count + 1)).2, after)

namespace CopyEnd

variable {σ : Type} {writer : Writer σ} {decoder : RecordDecoder} {state after : σ}
  {frame : Frame} {frames : List Frame} {ending : Except Error Unit} {limit? : Option Nat}
  {count : Nat} {outcome : Except Error Unit × RecordDecoder × σ}

/-- A frame before others that are copied. -/
theorem cons (positive : limit? ≠ some 0) (wrote : writer.write state frame.bytes = (.ok (), after))
    (copy : CopyEnd writer decoder.next.2 after frames ending (limit?.map (· - 1)) count outcome) :
    CopyEnd writer decoder state (frame :: frames) ending limit? (count + 1) outcome := by
  have below (isBelow : limit?.map (· - 1) ≠ some count) : limit? ≠ some (count + 1) := by
    rintro rfl
    exact isBelow rfl
  have taken : writer.afterFrames state ((frame :: frames).take (count + 1)) =
      writer.afterFrames after (frames.take count) := by
    rw [List.take_succ_cons, Writer.afterFrames_of_ok wrote]
  have asked (more : Nat) : (decoder.nextMany (more + 1)).2 = (decoder.next.2.nextMany more).2 :=
    rfl
  cases copy with
  | limited reached =>
      obtain ⟨limit, isLimit, rfl⟩ := Option.map_eq_some_iff.mp reached
      have one : limit ≠ 0 := fun zero => positive (zero ▸ isLimit)
      have same : limit - 1 + 1 = limit := Nat.sub_add_cancel (Nat.pos_of_ne_zero one)
      rw [← taken, ← asked]
      exact .limited (isLimit.trans (congrArg some same.symm))
  | ended isBelow whole last =>
      rw [← taken, ← asked]
      exact .ended (below isBelow) (congrArg (· + 1) whole) last
  | unread isBelow whole last =>
      rw [← taken, ← asked]
      exact .unread (below isBelow) (congrArg (· + 1) whole) last
  | refused isBelow present fails =>
      rw [← taken] at fails
      rw [← asked]
      have stillPresent : count + 1 < (frame :: frames).length := Nat.succ_lt_succ present
      exact .refused (below isBelow) stillPresent fails

/-- Only whole frames were written, however the copy ended. -/
theorem written_eq (copy : CopyEnd writer decoder state frames ending limit? count outcome)
    (within : count ≤ writer.accepted state frames) :
    writer.written outcome.2.2 =
      writer.written state ++ Frame.concat (frames.take count) := by
  rw [← Writer.written_afterFrames within]
  cases copy with
  | limited reached => exact writer.written_flush _
  | ended below whole last => exact writer.written_flush _
  | unread below whole last => rfl
  | refused below present fails => exact writer.written_of_error fails

/-- A copy succeeds where neither reading nor writing nor flushing failed first. -/
theorem ok_iff (copy : CopyEnd writer decoder state frames ending limit? count outcome) :
    outcome.1 = .ok () ↔
      (limit? = some count ∨ (count = frames.length ∧ ending = .ok ())) ∧
        (writer.flush (writer.afterFrames state (frames.take count))).1 = .ok () := by
  have flushed (after : RecordDecoder) (state : σ) :
      (writer.finish after state).1 = .ok () ↔ (writer.flush state).1 = .ok () :=
    mapError_eq_ok_iff
  cases copy with
  | limited reached => simp [flushed, reached]
  | ended below whole last => simp [flushed, whole, last]
  | unread below whole last => simp [below, last]
  | refused below present fails => simp [below, Nat.ne_of_lt present]

/-- The decoder is asked no more often than the limit. -/
theorem exists_asked (copy : CopyEnd writer decoder state frames ending limit? count outcome)
    (within : ∀ limit, limit? = some limit → count ≤ limit) :
    ∃ asked, outcome.2.1 = (decoder.nextMany asked).2 ∧
      ∀ limit, limit? = some limit → asked ≤ limit := by
  have more (below : limit? ≠ some count) (limit : Nat) (limited : limit? = some limit) :
      count + 1 ≤ limit := by
    refine Nat.lt_of_le_of_ne (within limit limited) ?_
    rintro rfl
    exact below limited
  cases copy with
  | limited reached => exact ⟨count, rfl, within⟩
  | ended below whole last => exact ⟨count + 1, rfl, more below⟩
  | unread below whole last => exact ⟨count + 1, rfl, more below⟩
  | refused below present fails => exact ⟨count + 1, rfl, more below⟩

end CopyEnd

namespace Writer

variable {σ : Type} {writer : Writer σ} {decoder : RecordDecoder} {frames : List Frame}
  {ending : Except Error Unit}

/-- With a bound beyond the frames that the decoder gives, a copy ends for a reason. -/
theorem copyFramesWithin_end (gives : decoder.Gives frames ending) {bound : Nat}
    (enough : frames.length < bound) {limit? : Option Nat} (positive : limit? ≠ some 0)
    (state : σ) :
    CopyEnd writer decoder state frames ending limit? (writer.copied state frames limit?)
      (writer.copyFramesWithin bound limit? decoder state) := by
  induction frames generalizing decoder bound limit? state with
  | nil =>
      obtain ⟨bound, rfl⟩ := Nat.exists_eq_add_one_of_ne_zero (Nat.ne_of_gt enough)
      have read := RecordDecoder.gives_nil_iff.mp gives
      rw [copied_nil, copyFramesWithin]
      have isRead : decoder.next = (ending.map fun _ => none, decoder.next.2) := Prod.ext read rfl
      rw [isRead]
      cases ending with
      | error error => exact .unread positive rfl rfl
      | ok => exact .ended positive rfl rfl
  | cons frame others ih =>
      obtain ⟨bound, rfl⟩ :=
        Nat.exists_eq_add_one_of_ne_zero (Nat.ne_of_gt (Nat.zero_lt_of_lt enough))
      have fewer : others.length < bound := Nat.lt_of_succ_lt_succ enough
      obtain ⟨read, following⟩ := RecordDecoder.gives_cons_iff.mp gives
      have isRead : decoder.next = (.ok (some frame), decoder.next.2) := Prod.ext read rfl
      have present : 0 < (frame :: others).length := Nat.succ_pos _
      rw [copyFramesWithin, isRead]
      dsimp only
      match wrote : writer.write state frame.bytes with
      | (.error failure, after) =>
          rw [copied_of_error wrote, writeFrame_of_error wrote]
          exact .refused positive present wrote
      | (.ok (), after) =>
          rw [copied_of_ok positive wrote, writeFrame_of_ok wrote]
          cases limit? with
          | none => exact .cons positive wrote (ih following fewer positive after)
          | some limit =>
              have isPositive : limit ≠ 0 := fun zero => positive (congrArg some zero)
              dsimp only
              split
              next last =>
                -- The limit is one, and the frame that was written reaches it.
                have one : limit = 1 := by omega
                subst one
                have noneLeft : writer.copied after others (some 0) = 0 :=
                  Nat.le_zero.mp (copied_le_limit rfl)
                have stopped : CopyEnd writer decoder.next.2 after others ending (some 0) 0
                    (writer.finish decoder.next.2 after) :=
                  .limited rfl
                rw [Option.map_some, noneLeft]
                exact .cons positive wrote stopped
              next more =>
                have stillPositive : some (limit - 1) ≠ some 0 := by
                  rw [ne_eq, Option.some.injEq]
                  omega
                exact .cons positive wrote (ih following fewer stillPositive after)

/-- A copy of what a decoder gives ends for a reason: at the limit, or where the decoder ends
or fails, or where a frame cannot be written.  However it ends, what was written more are
whole frames, the first ones that the decoder gave.  It succeeds where nothing failed before it
ended, and it asks the decoder no more often than the limit. -/
theorem copyFrames_whole {σ : Type} (writer : Writer σ) (state : σ) (decoder : RecordDecoder)
    (limit : Option NonZero) :
    ∃ frames ending, decoder.Gives frames ending ∧
      let limit? := limit.map fun limit => limit.value.toNat
      let count := writer.copied state frames limit?
      let outcome := writer.copyFrames decoder limit state
      CopyEnd writer decoder state frames ending limit? count outcome ∧
      writer.written outcome.2.2 =
        writer.written state ++ Frame.concat (frames.take count) ∧
      (outcome.1 = .ok () ↔
        (limit? = some count ∨ (count = frames.length ∧ ending = .ok ())) ∧
          (writer.flush (writer.afterFrames state (frames.take count))).1 = .ok ()) ∧
      ∃ asked, outcome.2.1 = (decoder.nextMany asked).2 ∧
        ∀ limit, limit? = some limit → asked ≤ limit := by
  obtain ⟨frames, ending, gives⟩ := decoder.exists_gives
  refine ⟨frames, ending, gives, ?_⟩
  intro limit? count outcome
  have positive : limit? ≠ some 0 := NonZero.map_toNat_ne_zero limit
  have copy : CopyEnd writer decoder state frames ending limit? count outcome :=
    copyFramesWithin_end gives (Nat.lt_succ_of_le gives.length_le) positive state
  exact ⟨copy, copy.written_eq copied_le_accepted, copy.ok_iff,
    copy.exists_asked fun limit => copied_le_limit⟩

end Writer

end TickWire
