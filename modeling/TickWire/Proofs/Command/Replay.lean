import TickWire.Command.Replay
import TickWire.Proofs.Metadata.Legible
import TickWire.Proofs.Record.Legacy
import TickWire.Proofs.Stream.Typed

/-!
# Faithful replay

A replay that encodes all records of a file writes the upgraded metadata and then what each
frame decodes to.  What it writes is a file of one version throughout, so it is read as it
is, and replaying it again changes nothing.
-/

namespace TickWire

/-! ## The file that is read -/

namespace InputFile

variable {file : InputFile} {later : Bytes}

/-- A file that begins with a block is read from its first byte. -/
theorem source_of_block (block : MetadataBlock) (holds : file.bytes = block.bytes ++ later) :
    file.source = { rest := file.bytes } := by
  rw [source, if_pos]
  right
  rw [holds]
  exact block.startsAsFile later

theorem steady_source_of_block (block : MetadataBlock)
    (holds : file.bytes = block.bytes ++ later) : file.source.IsSteady := by
  rw [source_of_block block holds]
  exact ⟨rfl, nofun⟩

theorem rest_source_of_block (block : MetadataBlock)
    (holds : file.bytes = block.bytes ++ later) : file.source.rest = block.bytes ++ later := by
  rw [source_of_block block holds]
  exact holds

/-- A file that begins with a block which is refused cannot be read, whatever a
decompressor says of it. -/
theorem ofSource_refused {start fields : Bytes} (length : start.length = preludeSize)
    {error : Error} (refused : IsRefusedBlock start fields error)
    (holds : file.bytes = start ++ (fields ++ later)) (policy : UpgradePolicy) :
    ∃ error, FileDecoder.ofSource file.source policy = .error error := by
  have steady : Source.IsSteady { rest := file.bytes } := ⟨rfl, nofun⟩
  unfold source
  split
  · exact ⟨error, FileDecoder.ofSource_refused steady length refused holds policy⟩
  · exact ⟨_, rfl⟩

end InputFile

/-! ## What is written -/

/-- A replay that encodes all records of a file. -/
structure ReplayOptions.CopiesAll (options : ReplayOptions) : Prop where
  encoded : options.output.encoded = true
  unlimited : options.output.limit = none
  unfiltered : options.schema? = none
  withRecords : options.metadataOnly = false

namespace RecordOutput

variable {output : RecordOutput}

/-- Output to which more bytes were written. -/
def appended (output : RecordOutput) (bytes : Bytes) : RecordOutput :=
  { output with sink := output.sink.appended bytes }

@[simp] theorem appended_nil (output : RecordOutput) : output.appended [] = output := by
  simp [appended]

@[simp] theorem appended_appended (output : RecordOutput) (first second : Bytes) :
    (output.appended first).appended second = output.appended (first ++ second) := by
  simp [appended]

/-- A frame as the output shows it: as it is encoded, or as a line of text. -/
def shown (output : RecordOutput) (frame : Frame) : Bytes :=
  if output.encoded then frame.bytes else textBytes (lineOf frame) ++ [0x0A]

@[simp] theorem shown_appended (output : RecordOutput) (bytes : Bytes) :
    (output.appended bytes).shown = output.shown := rfl

/-- Encoded output shows frames as they are. -/
theorem flatMap_shown (encoded : output.encoded = true) (frames : List Frame) :
    frames.flatMap output.shown = Frame.concat frames := by
  have same : output.shown = Frame.bytes := by
    funext frame
    rw [shown, if_pos encoded]
  rw [same, Frame.concat]

theorem writeFrame_run (isOpen : output.sink.IsOpen) (frame : Frame) :
    output.writeFrame frame = (.ok (), output.appended (output.shown frame)) := by
  unfold writeFrame shown
  split
  · rw [isOpen.writeFrame_run]
    rfl
  · rw [writeLine, isOpen.write_run]
    rfl

theorem finish_run (isOpen : output.sink.IsOpen) : output.finish = .ok () :=
  isOpen.flush_run

end RecordOutput

/-! ## What is selected -/

/-- The first elements of a list up to a limit, if there is one. -/
def firstOf {α : Type} (limit? : Option Nat) (elements : List α) : List α :=
  limit?.elim elements elements.take

/-- The first element that counts leaves one less to the limit. -/
theorem firstOf_cons {α : Type} {limit? : Option Nat} (positive : limit? ≠ some 0) (first : α)
    (others : List α) :
    firstOf limit? (first :: others) = first :: firstOf (limit?.map (· - 1)) others := by
  cases limit? with
  | none => rfl
  | some limit =>
      have nonzero : limit ≠ 0 := fun zero => positive (congrArg some zero)
      exact List.take_cons (Nat.pos_of_ne_zero nonzero)

/-- The tag of the records that are wanted, unless all of them are. -/
def ReplayOptions.wantedTag? (options : ReplayOptions) : Option RecordTag :=
  options.schema?.bind Schema.tag?

/-- Whether a frame has the tag that is asked for, if one is. -/
def ReplayOptions.wants (options : ReplayOptions) (frame : Frame) : Bool :=
  options.wantedTag?.all fun tag => frame.header.rtype == tag.byte

/-- The frames that a replay writes: those that are wanted, up to the limit. -/
def ReplayOptions.selected (options : ReplayOptions) (found : List Frame) : List Frame :=
  firstOf (options.output.limit.map fun limit => limit.value.toNat) (found.filter options.wants)

theorem ReplayOptions.isWanted_wantedTag? (options : ReplayOptions) :
    isWanted options.wantedTag? = options.wants := by
  funext frame
  rw [wants]
  cases options.wantedTag? with
  | none => rfl
  | some tag => exact BEq.comm

/-- Reading comes to an end: nothing follows, or the frames that are wanted reach the
limit. -/
def ReachesEnd (limit? : Option Nat) (wanted : List Frame) (tail : Bytes) : Prop :=
  tail = [] ∨ ∃ limit, limit? = some limit ∧ limit ≤ wanted.length

/-- Behind a frame that is wanted, the others reach what is left of the limit. -/
theorem ReachesEnd.of_cons {limit? : Option Nat} {frame : Frame} {others : List Frame}
    {tail : Bytes} (reaches : ReachesEnd limit? (frame :: others) tail) :
    ReachesEnd (limit?.map (· - 1)) others tail := by
  rcases reaches with atEnd | ⟨limit, limited, enough⟩
  · exact .inl atEnd
  · exact .inr ⟨limit - 1, by rw [limited, Option.map_some], Nat.sub_le_of_le_add enough⟩

section Records

variable {tag? : Option RecordTag} {decoder after : RecordDecoder} {output : RecordOutput}
  {frame : Frame}

/-- A frame that is not wanted is passed over. -/
theorem replayRecords_of_unwanted (first : decoder.next = (.ok (some frame), after))
    (unwanted : isWanted tag? frame = false) (bound : Nat) (remaining? : Option Nat) :
    replayRecords tag? (bound + 1) remaining? decoder output =
      replayRecords tag? bound remaining? after output := by
  rw [replayRecords, first]
  dsimp only
  rw [unwanted, if_neg Bool.false_ne_true]

/-- A frame that is wanted is written, and the rest follows it unless it is the last one. -/
theorem replayRecords_of_wanted (first : decoder.next = (.ok (some frame), after))
    (wanted : isWanted tag? frame = true) (isOpen : output.sink.IsOpen) (bound : Nat)
    (remaining? : Option Nat) :
    replayRecords tag? (bound + 1) remaining? decoder output =
      match remaining? with
      | none => replayRecords tag? bound none after (output.appended (output.shown frame))
      | some remaining =>
        if remaining ≤ 1 then (.ok (), output.appended (output.shown frame))
        else replayRecords tag? bound (some (remaining - 1)) after
          (output.appended (output.shown frame)) := by
  have finished : (output.appended (output.shown frame)).finish = .ok () :=
    RecordOutput.finish_run (isOpen.appended _)
  rw [replayRecords, first]
  dsimp only
  rw [RecordOutput.writeFrame_run isOpen, wanted, if_pos rfl]
  cases remaining? with
  | none => rfl
  | some remaining =>
      dsimp only
      rw [finished]

/-- Where the records end, nothing more is written. -/
theorem replayRecords_of_end (ended : decoder.next.1 = .ok none)
    (isOpen : output.sink.IsOpen) (bound : Nat) (remaining? : Option Nat) :
    replayRecords tag? (bound + 1) remaining? decoder output = (.ok (), output) := by
  have read : decoder.next = (.ok none, decoder.next.2) := Prod.ext ended rfl
  rw [replayRecords, read]
  dsimp only
  rw [RecordOutput.finish_run isOpen]

/-- Of the frames that a decoder reads, those that are wanted are written, up to the limit.
What follows the frame that reaches the limit is not read. -/
theorem replayRecords_run {frames found : List Frame} {tail : Bytes} {bound : Nat}
    {remaining? : Option Nat} (steady : decoder.source.IsSteady)
    (decode : Frame.DecodeTo decoder.version decoder.policy decoder.stamped frames found)
    (holds : decoder.source.rest = Frame.concat frames ++ tail) (enough : frames.length < bound)
    (positive : remaining? ≠ some 0)
    (reaches : ReachesEnd remaining? (found.filter (isWanted tag?)) tail)
    (isOpen : output.sink.IsOpen) :
    replayRecords tag? bound remaining? decoder output =
      (.ok (), output.appended
        ((firstOf remaining? (found.filter (isWanted tag?))).flatMap output.shown)) := by
  induction frames generalizing found decoder bound remaining? output with
  | nil =>
      obtain ⟨bound, rfl⟩ := Nat.exists_eq_add_one_of_ne_zero (Nat.ne_of_gt enough)
      cases decode
      -- No frame is left to reach the limit with.
      have atEnd : tail = [] := by
        rcases reaches with atEnd | ⟨limit, limited, few⟩
        · exact atEnd
        · exact absurd (limited.trans (congrArg some (Nat.le_zero.mp few))) positive
      rw [replayRecords_of_end (RecordDecoder.next_of_empty steady (holds.trans atEnd)) isOpen]
      cases remaining? <;> simp [firstOf]
  | cons frame others ih =>
      obtain ⟨bound, rfl⟩ :=
        Nat.exists_eq_add_one_of_ne_zero (Nat.ne_of_gt (Nat.zero_lt_of_lt enough))
      have fewer : others.length < bound := Nat.lt_of_succ_lt_succ enough
      cases decode with
      | @cons _ first _ following decodeFirst decodeOthers =>
          rw [Frame.concat_cons, List.append_assoc] at holds
          obtain ⟨after, next, moved⟩ := RecordDecoder.next_of_frame steady holds
          rw [decodeFirst, map_ok] at next
          have steadyAfter : after.source.IsSteady := moved.source_eq ▸ steady.advance _
          have behind : after.source.rest = Frame.concat others ++ tail := by
            simp [moved.source_eq, holds]
          rw [← moved.version_eq, ← moved.policy_eq, ← moved.stamped_eq] at decodeOthers
          cases wanted : isWanted tag? first with
          | false =>
              rw [List.filter_cons_of_neg (Bool.not_eq_true _ ▸ wanted)] at reaches ⊢
              rw [replayRecords_of_unwanted next wanted]
              exact ih steadyAfter decodeOthers behind fewer positive reaches isOpen
          | true =>
              rw [List.filter_cons_of_pos wanted] at reaches ⊢
              rw [replayRecords_of_wanted next wanted isOpen, firstOf_cons positive,
                List.flatMap_cons, ← RecordOutput.appended_appended,
                ← RecordOutput.shown_appended output (output.shown first)]
              cases remaining? with
              | none =>
                  exact ih steadyAfter decodeOthers behind fewer positive reaches.of_cons
                    (isOpen.appended _)
              | some remaining =>
                  have nonzero : remaining ≠ 0 := fun zero => positive (congrArg some zero)
                  dsimp only [Option.map_some]
                  split
                  next last =>
                    obtain rfl : remaining = 1 := by omega
                    simp [firstOf]
                  next more =>
                    have stillPositive : some (remaining - 1) ≠ some 0 := by
                      rw [ne_eq, Option.some.injEq]
                      omega
                    exact ih steadyAfter decodeOthers behind fewer stillPositive reaches.of_cons
                      (isOpen.appended _)

end Records

/-- Encoded output begins with the metadata, in which the limit is the one that is asked
for. -/
theorem RecordOutput.start_run {options : OutputOptions} {metadata : Metadata} {written : Bytes}
    (encoded : options.encoded = true)
    (accepted : { metadata with limit := options.limit.or metadata.limit }.encode = .ok written) :
    RecordOutput.start options metadata = (.ok (), ⟨true, { written }⟩) := by
  rw [RecordOutput.start, if_pos encoded]
  dsimp only [Sink.writeMetadata]
  rw [accepted]
  dsimp only
  rw [Sink.isOpen_empty.write_run]
  rfl

/-- Output that could be opened refuses nothing. -/
theorem RecordOutput.isOpen_of_start {options : OutputOptions} {metadata : Metadata}
    {output : RecordOutput} (started : RecordOutput.start options metadata = (.ok (), output)) :
    output.sink.IsOpen := by
  unfold RecordOutput.start at started
  split at started
  · dsimp only [Sink.writeMetadata] at started
    cases encoded : { metadata with limit := options.limit.or metadata.limit }.encode with
    | error error =>
        rw [encoded] at started
        cases started
    | ok bytes =>
        rw [encoded] at started
        dsimp only at started
        rw [Sink.isOpen_empty.write_run] at started
        cases started
        exact Sink.isOpen_empty.appended _
  · cases started
    exact Sink.isOpen_empty

section Replay

variable {options : ReplayOptions} {place : OutputPlace} {file : InputFile}
variable {frames found : List Frame} {written tail : Bytes}

theorem Schema.tag?_of_tag {schema : Schema} {tag : RecordTag} (isTag : schema.tag = .ok tag) :
    schema.tag? = some tag := by
  unfold Schema.tag at isTag
  split at isTag
  next found => exact found.trans (congrArg some (Except.ok.inj isTag))
  next => cases isTag

/-- A schema that is asked for has records of its own. -/
def ReplayOptions.IsTyped (options : ReplayOptions) : Prop :=
  ∀ schema, options.schema? = some schema → ∃ tag, schema.tag = .ok tag

/-- The metadata of the records that are wanted. -/
def ReplayOptions.described (options : ReplayOptions) (metadata : Metadata) : Metadata :=
  { metadata with schema := options.schema?.or metadata.schema }

theorem ReplayOptions.isTyped_of_unfiltered (unfiltered : options.schema? = none) :
    options.IsTyped := by
  intro schema filtered
  rw [unfiltered] at filtered
  cases filtered

theorem ReplayOptions.described_of_unfiltered (unfiltered : options.schema? = none)
    (metadata : Metadata) : options.described metadata = metadata := by
  rw [described, unfiltered, Option.none_or]

theorem ReplayOptions.filter_of_unfiltered (unfiltered : options.schema? = none)
    (found : List Frame) : found.filter options.wants = found := by
  have all : options.wants = fun _ => true := by
    funext frame
    rw [wants, wantedTag?, unfiltered]
    rfl
  rw [all, List.filter_true]

/-- A file that begins with a block is read behind it, with the metadata as the policy and the
schema that is asked for have it. -/
theorem prepareReplay_of_typed (typed : options.IsTyped) (block : MetadataBlock)
    {later : Bytes} (holds : file.bytes = block.bytes ++ later) :
    prepareReplay options file = .ok (options.wantedTag?,
      options.described (block.metadata.upgrade options.output.policy), {
        source := file.source.advance block.bytes.length
        version := block.version
        policy := options.output.policy
        stamped := block.metadata.stamped }) := by
  rw [prepareReplay, FileDecoder.ofSource_block (InputFile.steady_source_of_block block holds)
    block (InputFile.rest_source_of_block block holds), ok_bind]
  cases filtered : options.schema? with
  | none =>
      rw [ReplayOptions.described_of_unfiltered filtered, ReplayOptions.wantedTag?, filtered]
      rfl
  | some schema =>
      obtain ⟨tag, isTag⟩ := typed schema filtered
      rw [ReplayOptions.described, ReplayOptions.wantedTag?, filtered, Option.bind_some,
        Schema.tag?_of_tag isTag]
      simp only [isTag, ok_bind, Option.some_or]
      rfl

theorem prepareReplay_block (unfiltered : options.schema? = none) (block : MetadataBlock)
    {later : Bytes} (holds : file.bytes = block.bytes ++ later) :
    prepareReplay options file = .ok (none, block.metadata.upgrade options.output.policy, {
      source := file.source.advance block.bytes.length
      version := block.version
      policy := options.output.policy
      stamped := block.metadata.stamped }) := by
  rw [prepareReplay_of_typed (ReplayOptions.isTyped_of_unfiltered unfiltered) block holds,
    ReplayOptions.described_of_unfiltered unfiltered, ReplayOptions.wantedTag?, unfiltered]
  rfl

/-- A replay writes the frames that are selected behind what the output begins with. -/
theorem replay_run {output : RecordOutput} (typed : options.IsTyped)
    (withRecords : options.metadataOnly = false) (opens : options.output.check place = .ok ())
    (block : MetadataBlock) (holds : file.bytes = block.bytes ++ (Frame.concat frames ++ tail))
    (decode : Frame.DecodeTo block.version options.output.policy block.metadata.stamped
      frames found)
    (reaches : ReachesEnd (options.output.limit.map fun limit => limit.value.toNat)
      (found.filter options.wants) tail)
    (started : RecordOutput.start options.output
      (options.described (block.metadata.upgrade options.output.policy)) = (.ok (), output)) :
    replay options (some file) place =
      (.ok (), .present (output.sink.written ++
        (options.selected found).flatMap output.shown)) := by
  have steady := (InputFile.steady_source_of_block block holds).advance block.bytes.length
  have behind : (file.source.advance block.bytes.length).rest = Frame.concat frames ++ tail := by
    simp [InputFile.rest_source_of_block block holds]
  have enough : frames.length < (file.source.advance block.bytes.length).rest.length + 1 := by
    have fewer := Frame.length_le_concat frames
    rw [behind, List.length_append]
    omega
  have positive := NonZero.map_toNat_ne_zero options.output.limit
  rw [← options.isWanted_wantedTag?] at reaches
  simp only [replay, prepareReplay_of_typed typed block holds, opens, replayInto, started,
    withRecords, Bool.false_eq_true, if_false]
  rw [replayRecords_run steady decode behind enough positive reaches
    (RecordOutput.isOpen_of_start started), options.isWanted_wantedTag?]
  rfl

/-- What a replay of a block and whole frames writes. -/
theorem replay_block (copies : options.CopiesAll) (opens : options.output.check place = .ok ())
    (block : MetadataBlock) (holds : file.bytes = block.bytes ++ Frame.concat frames)
    (decode : Frame.DecodeTo block.version options.output.policy block.metadata.stamped
      frames found)
    (accepted : (block.metadata.upgrade options.output.policy).encode = .ok written) :
    replay options (some file) place =
      (.ok (), .present (written ++ Frame.concat found)) := by
  have heading (metadata : Metadata) : { options.described metadata with
      limit := options.output.limit.or (options.described metadata).limit } = metadata := by
    rw [ReplayOptions.described_of_unfiltered copies.unfiltered, copies.unlimited, Option.none_or]
  rw [← heading (block.metadata.upgrade options.output.policy)] at accepted
  have started := RecordOutput.start_run copies.encoded accepted
  have all : options.selected found = found := by
    rw [ReplayOptions.selected, ReplayOptions.filter_of_unfiltered copies.unfiltered,
      copies.unlimited]
    rfl
  rw [← List.append_nil (Frame.concat frames)] at holds
  rw [replay_run (ReplayOptions.isTyped_of_unfiltered copies.unfiltered) copies.withRecords opens
    block holds decode (.inl rfl) started, all, RecordOutput.flatMap_shown rfl]

/-- A replay up to a limit writes that many of the frames, in either form. -/
theorem replay_to_limit {limit : NonZero} {output : RecordOutput}
    (unfiltered : options.schema? = none) (withRecords : options.metadataOnly = false)
    (limited : options.output.limit = some limit)
    (opens : options.output.check place = .ok ()) (block : MetadataBlock)
    (holds : file.bytes = block.bytes ++ Frame.concat frames)
    (decode : Frame.DecodeTo block.version options.output.policy block.metadata.stamped
      frames found)
    (started : RecordOutput.start options.output
      (block.metadata.upgrade options.output.policy) = (.ok (), output)) :
    replay options (some file) place = (.ok (), .present (output.sink.written ++
      (found.take limit.value.toNat).flatMap output.shown)) := by
  rw [← ReplayOptions.described_of_unfiltered unfiltered
    (block.metadata.upgrade options.output.policy)] at started
  have upTo : options.selected found = found.take limit.value.toNat := by
    rw [ReplayOptions.selected, ReplayOptions.filter_of_unfiltered unfiltered, limited]
    rfl
  rw [← List.append_nil (Frame.concat frames)] at holds
  rw [replay_run (ReplayOptions.isTyped_of_unfiltered unfiltered) withRecords opens block holds
    decode (.inl rfl) started, upTo]

/-! ## The file that is written -/

variable {metadata : Metadata}

/-- Metadata and frames that were written are read as they are. -/
theorem decodesTo_written (storable : metadata.IsStorable) {source : Source}
    (steady : source.IsSteady)
    (holds : source.rest = storable.block.bytes ++ Frame.concat found) :
    FileDecoder.DecodesTo source .asIs metadata found := by
  have asIs : UpgradePolicy.asIs ≠ .upgrade := by decide
  have same : metadata.upgrade .asIs = metadata := storable.block.isLegible.upgrade_asIs
  have decodes := FileDecoder.decodesTo_of_block steady storable.block holds
    (Frame.decodeTo_self storable.block.version_le (.inr asIs) _ found)
  rw [← same]
  exact decodes

/-- Metadata and frames that nothing is left to upgrade in are written again as they are. -/
theorem replay_written (storable : metadata.IsStorable) (copies : options.CopiesAll)
    (settled : metadata.version ≠ 1 ∨ options.output.policy ≠ .upgrade)
    (opens : options.output.check place = .ok ())
    (holds : file.bytes = storable.block.bytes ++ Frame.concat found) :
    replay options (some file) place = (.ok (), .present file.bytes) := by
  have same : metadata.upgrade options.output.policy = metadata :=
    storable.block.isLegible.upgrade_of_settled settled
  have accepted : (metadata.upgrade options.output.policy).encode =
      .ok storable.block.bytes := by
    rw [same]
    exact storable.encode_eq
  rw [holds]
  exact replay_block copies opens storable.block holds
    (Frame.decodeTo_self storable.block.version_le settled _ found) accepted

end Replay

/-- Replaying a file that can be decoded under a policy, and whose upgraded metadata can be
stored, writes a file.  As it is, that file decodes to the metadata and the frames that the
first one decodes to under the policy.  Replaying it with the same options writes it again.
Without upgrading, a file whose block is what the encoder writes is written as it was.  Where
output is compressed, the file that is written is what the compressor takes. -/
theorem replay_faithful (options : ReplayOptions) (copies : options.CopiesAll)
    (place : OutputPlace) (opens : options.output.check place = .ok ())
    (file : InputFile) (block : MetadataBlock) (frames : List Frame)
    (holds : file.bytes = block.bytes ++ Frame.concat frames)
    (decodable : ∀ frame ∈ frames, ∃ found,
      frame.decodeAlone block.version options.output.policy block.metadata.stamped = .ok found)
    (written : Bytes)
    (accepted : (block.metadata.upgrade options.output.policy).encode = .ok written)
    (short : written.length ≤ preludeSize + metadataMaximumSize) :
    ∃ found output,
      replay options (some file) place = (.ok (), .present output) ∧
      (found.length = frames.length ∧
        FileDecoder.DecodesTo file.source options.output.policy
          (block.metadata.upgrade options.output.policy) found) ∧
      (∀ source : Source, source.IsSteady → source.rest = output →
        FileDecoder.DecodesTo source .asIs
          (block.metadata.upgrade options.output.policy) found) ∧
      (∀ (copy : InputFile) (input : String) (path? : Option String) (placeAgain : OutputPlace),
        copy.bytes = output →
        let again := { options with input, output := { options.output with path? } }
        again.output.check placeAgain = .ok () →
          replay again (some copy) placeAgain = (.ok (), .present output)) ∧
      (options.output.upgrade = false → block.metadata.encode = .ok block.bytes →
        output = file.bytes) := by
  obtain ⟨found, decode⟩ := Frame.exists_decodeTo decodable
  -- What was written is itself a block of metadata in which nothing is left to upgrade.
  have legible := block.isLegible
  have storable := (legible.upgrade options.output.policy).isStorable accepted short
  have writtenBlock : written = storable.block.bytes := by
    rw [storable.encode_eq] at accepted
    exact (Except.ok.inj accepted).symm
  refine ⟨found, written ++ Frame.concat found, ?_, ⟨?_, ?_⟩, ?_, ?_, ?_⟩
  · exact replay_block copies opens block holds decode accepted
  · exact (List.Forall₂.length_eq decode).symm
  · exact FileDecoder.decodesTo_of_block (InputFile.steady_source_of_block block holds) block
      (InputFile.rest_source_of_block block holds) decode
  · intro source steady rest
    rw [writtenBlock] at rest
    exact decodesTo_written storable steady rest
  · intro copy input path? placeAgain same again opensAgain
    have copiesAgain : again.CopiesAll :=
      ⟨copies.encoded, copies.unlimited, copies.unfiltered, copies.withRecords⟩
    have settled := block.metadata.settled_upgrade options.output.policy
    rw [← same]
    rw [writtenBlock] at same
    exact replay_written storable copiesAgain settled opensAgain same
  · intro asWritten ownBlock
    have asIs : options.output.policy = .asIs := by
      rw [OutputOptions.policy, asWritten]
      rfl
    rw [asIs, legible.upgrade_asIs, ownBlock] at accepted
    rw [asIs] at decode
    rw [holds, ← Except.ok.inj accepted, decode.eq_of_asIs block.version_le]

/-- Metadata of all symbols of a day, as version 1 has it. -/
def Metadata.ofAllSymbols : Metadata where
  version := 1
  dataset := "GLBX.MDP3"
  schema := none
  startTime := 1704067200000000000
  endTime := NonZero.of? 1704153600000000000
  limit := none
  symbologyIn := none
  symbologyOut := .instrumentId
  stamped := false
  symbolWidth := symbolWidthV1
  symbols := ["ALL_SYMBOLS"]
  partiallyFound := []
  notFound := []
  mappings := []

theorem Metadata.isStorable_ofAllSymbols (policy : UpgradePolicy) :
    (ofAllSymbols.upgrade policy).IsStorable where
  layout := by
    cases policy with
    | asIs => exact .inl (by decide)
    | upgrade => exact .inr (by decide)
  dataset := by cases policy <;> decide
  symbols := by cases policy <;> decide
  partiallyFound := by cases policy <;> nofun
  notFound := by cases policy <;> nofun
  mappings := by cases policy <;> nofun
  endTime := by
    intro time found
    cases policy <;> cases found <;> decide
  fieldsSize_le := by cases policy <;> decide

/-- A file of version 1, of which the message of the gateway is upgraded and the other frame
is not. -/
theorem replay_faithful_early :
    let block := (Metadata.isStorable_ofAllSymbols .asIs).block
    let message := (Record.initial ⟨.systemV1, false⟩).toFrame (by decide)
    let frames := [message, RecordDecoder.bareFrame 0x00]
    let file : InputFile := { bytes := block.bytes ++ Frame.concat frames }
    let options : ReplayOptions := {
      input := "early.dbn"
      output := { path? := some "late.dbn", encoded := true, upgrade := true } }
    let again : ReplayOptions := {
      input := "late.dbn"
      output := { path? := none, encoded := true, upgrade := true } }
    (options.CopiesAll ∧ options.output.check .absent = .ok () ∧
      again.output.check .unreachable = .ok ()) ∧
    ∃ found output,
      replay options (some file) .absent = (.ok (), .present output) ∧ found.length = 2 ∧
      FileDecoder.DecodesTo { rest := output, chunk? := some 3 } .asIs
        { Metadata.ofAllSymbols with version := 2, symbolWidth := 71 } found ∧
      replay again (some { bytes := output }) .unreachable = (.ok (), .present output) := by
  intro block message frames file options again
  have copies : options.CopiesAll := ⟨rfl, rfl, rfl, rfl⟩
  have proper : (Record.initial ⟨.systemV1, false⟩).IsProper := ⟨by decide, by decide⟩
  have changed : RecordKind.legacyOfTag? .system = some (.systemV1, .system) := rfl
  have decodable : ∀ frame ∈ frames, ∃ found,
      frame.decodeAlone block.version options.output.policy block.metadata.stamped =
        .ok found := by
    intro frame member
    rcases List.mem_cons.mp member with rfl | member
    · exact ⟨_, proper.decodeAlone_frame changed⟩
    · rcases List.mem_singleton.mp member with rfl
      exact ⟨_, rfl⟩
  have storable := Metadata.isStorable_ofAllSymbols .upgrade
  obtain ⟨found, output, run, ⟨length, -⟩, decodes, repeats, -⟩ :=
    replay_faithful options copies .absent rfl file block frames rfl decodable
      storable.block.bytes storable.encode_eq storable.length_block_le
  have pieces : (some 3 : Option Nat) ≠ some 0 := by decide
  have steady : Source.IsSteady { rest := output, chunk? := some 3 } := ⟨rfl, pieces⟩
  refine ⟨⟨copies, rfl, rfl⟩, found, output, run, length, decodes _ steady rfl, ?_⟩
  exact repeats { bytes := output } "late.dbn" none .unreachable rfl rfl

end TickWire
