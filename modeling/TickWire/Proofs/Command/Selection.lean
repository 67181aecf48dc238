import TickWire.Proofs.Command.Replay
import TickWire.Proofs.Record.Diagnostic

/-!
# What a replay selects

A replay writes the frames of the schema that is asked for, up to the limit, in their order and
without any other.  Encoded, they stand behind metadata that says so, and what was written is
read as just these frames.  As text, each of them takes one line.  Nothing behind the frame
that reaches the limit has an influence on the run.
-/

namespace TickWire

/-- Bytes are lines one after the other, each of which ends with its only newline. -/
def IsLines (bytes : Bytes) (lines : List Bytes) : Prop :=
  bytes = lines.flatMap (· ++ [0x0A]) ∧ ∀ line ∈ lines, 0x0A ∉ line

/-- The metadata that stands before what a replay writes. -/
def ReplayOptions.heading (options : ReplayOptions) (metadata : Metadata) : Metadata :=
  { metadata with
    schema := options.schema?.or metadata.schema
    limit := options.output.limit.or metadata.limit }

variable {options : ReplayOptions} {metadata : Metadata} {frame : Frame} {found : List Frame}

/-! ## The frames that are selected -/

theorem mem_of_mem_firstOf {α : Type} {limit? : Option Nat} {element : α} {elements : List α}
    (member : element ∈ firstOf limit? elements) : element ∈ elements := by
  cases limit? with
  | none => exact member
  | some limit => exact List.mem_of_mem_take member

/-- Every frame that is selected has the tag that is asked for. -/
theorem ReplayOptions.rtype_of_mem_selected {schema : Schema} {tag : RecordTag}
    (filtered : options.schema? = some schema) (isTag : schema.tag = .ok tag)
    (member : frame ∈ options.selected found) : frame.header.rtype = tag.byte := by
  have wanted := List.of_mem_filter (mem_of_mem_firstOf member)
  rw [wants, wantedTag?, filtered, Option.bind_some, Schema.tag?_of_tag isTag] at wanted
  exact beq_iff_eq.mp wanted

/-! ## The two forms of output -/

theorem Metadata.TextsFit.heading (fit : metadata.TextsFit) (options : ReplayOptions) :
    (options.heading metadata).TextsFit :=
  ⟨fit.dataset, fit.symbols, fit.partiallyFound, fit.notFound, fit.mappings⟩

/-- Another schema and limit change nothing about what can be read. -/
theorem Metadata.IsLegible.heading (legible : metadata.IsLegible) (options : ReplayOptions) :
    (options.heading metadata).IsLegible :=
  ⟨legible.layout, legible.dataset, legible.symbols, legible.partiallyFound, legible.notFound,
    legible.mappings, legible.endTime⟩

theorem Metadata.IsStorable.heading (storable : metadata.IsStorable) (options : ReplayOptions) :
    (options.heading metadata).IsStorable :=
  ⟨storable.toTextsFit.heading options, storable.layout, storable.endTime,
    storable.fieldsSize_le⟩

/-- Frames shown as text are lines, one for each. -/
theorem RecordOutput.isLines_shown {output : RecordOutput} (asText : output.encoded = false)
    (frames : List Frame) :
    IsLines (frames.flatMap output.shown) (frames.map fun frame => textBytes (lineOf frame)) := by
  have shown : output.shown = fun frame => textBytes (lineOf frame) ++ [0x0A] := by
    funext frame
    rw [RecordOutput.shown, asText, if_neg Bool.false_ne_true]
  constructor
  · rw [shown, List.flatMap_map]
  · intro line listed
    obtain ⟨frame, -, rfl⟩ := List.mem_map.mp listed
    exact (isOneLine_lineOf frame).notMem_textBytes

/-- The output of a replay can be opened if encoded output can hold its metadata. -/
theorem RecordOutput.exists_start
    (encodes : options.output.encoded = true → ∃ opening,
      (options.heading metadata).encode = .ok opening) :
    ∃ output, RecordOutput.start options.output (options.described metadata) = (.ok (), output) ∧
      output.encoded = options.output.encoded ∧
      (options.output.encoded = true →
        (options.heading metadata).encode = .ok output.sink.written) ∧
      (options.output.encoded = false → output.sink.written = []) := by
  cases form : options.output.encoded with
  | false =>
      refine ⟨⟨false, {}⟩, ?_, rfl, ?_, fun _ => rfl⟩
      · rw [start, form]
        rfl
      · intro encoded
        cases encoded
  | true =>
      obtain ⟨opening, accepted⟩ := encodes form
      refine ⟨⟨true, { written := opening }⟩, start_run form accepted, rfl, fun _ => accepted, ?_⟩
      intro asText
      cases asText

/-- A replay of frames that can be decoded, until the records end or as many of those that are
wanted as the limit are found, writes just these: encoded behind metadata of the schema and the
limit that are asked for, or one line for each.  It does the same whatever follows the frames,
if they reach the limit.  Where output is compressed, this is what the compressor takes. -/
theorem replay_selects (options : ReplayOptions) (withRecords : options.metadataOnly = false)
    (typed : options.IsTyped) (place : OutputPlace) (opens : options.output.check place = .ok ())
    (file : InputFile) (block : MetadataBlock) (frames : List Frame) (tail : Bytes)
    (holds : file.bytes = block.bytes ++ (Frame.concat frames ++ tail)) (found : List Frame)
    (decode : Frame.DecodeTo block.version options.output.policy block.metadata.stamped
      frames found)
    (reaches : ReachesEnd (options.output.limit.map fun limit => limit.value.toNat)
      (found.filter options.wants) tail)
    (encodes : options.output.encoded = true → ∃ opening,
      (options.heading (block.metadata.upgrade options.output.policy)).encode = .ok opening) :
    let heading := options.heading (block.metadata.upgrade options.output.policy)
    let selected := options.selected found
    ∃ output,
      replay options (some file) place = (.ok (), .present output) ∧
      (∀ schema tag, options.schema? = some schema → schema.tag = .ok tag →
        heading.schema = some schema ∧ ∀ frame ∈ selected, frame.header.rtype = tag.byte) ∧
      (options.output.encoded = true → ∃ opening,
        heading.encode = .ok opening ∧ output = opening ++ Frame.concat selected ∧
        (opening.length ≤ preludeSize + metadataMaximumSize →
          ∀ source : Source, source.IsSteady → source.rest = output →
            FileDecoder.DecodesTo source .asIs heading selected)) ∧
      (options.output.encoded = false →
        IsLines output (selected.map fun frame => textBytes (RecordOutput.lineOf frame))) ∧
      (∀ limit, options.output.limit = some limit →
        limit.value.toNat ≤ (found.filter options.wants).length →
        ∀ (other : InputFile) (later : Bytes),
          other.bytes = block.bytes ++ (Frame.concat frames ++ later) →
            replay options (some other) place = (.ok (), .present output)) := by
  intro heading selected
  obtain ⟨output, started, form, begun, empty⟩ := RecordOutput.exists_start encodes
  have legible : heading.IsLegible :=
    (block.isLegible.upgrade options.output.policy).heading options
  refine ⟨output.sink.written ++ selected.flatMap output.shown, ?_, ?_, ?_, ?_, ?_⟩
  · exact replay_run typed withRecords opens block holds decode reaches started
  · intro schema tag filtered isTag
    have described : heading.schema = some schema := by
      change options.schema?.or _ = _
      rw [filtered, Option.some_or]
    exact ⟨described, fun frame => ReplayOptions.rtype_of_mem_selected filtered isTag⟩
  · intro encoded
    have accepted := begun encoded
    rw [RecordOutput.flatMap_shown (form.trans encoded)]
    refine ⟨output.sink.written, accepted, rfl, ?_⟩
    intro short source steady rest
    have storable := legible.isStorable accepted short
    have written : output.sink.written = storable.block.bytes := by
      rw [storable.encode_eq] at accepted
      exact (Except.ok.inj accepted).symm
    rw [written] at rest
    exact decodesTo_written storable steady rest
  · intro asText
    rw [empty asText, List.nil_append]
    exact RecordOutput.isLines_shown (form.trans asText) selected
  · intro limit limited enough other later holdsOther
    have reachesOther : ReachesEnd (options.output.limit.map fun limit => limit.value.toNat)
        (found.filter options.wants) later :=
      .inr ⟨limit.value.toNat, by rw [limited, Option.map_some], enough⟩
    exact replay_run typed withRecords opens block holdsOther decode reachesOther started

/-- Two trades that are too short are found in a file that breaks off behind them, and the frame
between them, which has no tag, is left out. -/
theorem replay_selects_trades :
    let block := (Metadata.isStorable_ofAllSymbols .asIs).block
    let trade := RecordDecoder.bareFrame 0x00
    let frames := [trade, RecordDecoder.bareFrame 0x77, trade]
    let file : InputFile := { bytes := block.bytes ++ (Frame.concat frames ++ [4, 0x00]) }
    let options (encoded : Bool) : ReplayOptions := {
      input := "all.dbn"
      schema? := some .trades
      output := { path? := some "trades.dbn", encoded, limit := NonZero.of? 2 } }
    (∃ opening,
      ((options true).heading block.metadata).encode = .ok opening ∧
      replay (options true) (some file) .absent =
        (.ok (), .present (opening ++ (trade.bytes ++ trade.bytes)))) ∧
    ∃ output,
      replay (options false) (some file) .absent = (.ok (), .present output) ∧
      IsLines output [textBytes (Diagnostic.header trade.header),
        textBytes (Diagnostic.header trade.header)] := by
  intro block trade frames file options
  have storable (encoded : Bool) :
      ((options encoded).heading (block.metadata.upgrade .asIs)).IsStorable := by
    rw [block.isLegible.upgrade_asIs]
    exact (Metadata.isStorable_ofAllSymbols .asIs).heading _
  have typed (encoded : Bool) : (options encoded).IsTyped := by
    rintro schema ⟨⟩
    exact ⟨.mbp0, rfl⟩
  have asIs : UpgradePolicy.asIs ≠ .upgrade := by decide
  have both : 2 ≤ (frames.filter fun frame => frame.header.rtype == 0x00).length := by decide
  have run (encoded : Bool) := replay_selects (options encoded) rfl (typed encoded) .absent rfl
    file block frames [4, 0x00] rfl frames
    (Frame.decodeTo_self block.version_le (.inr asIs) _ frames) (.inr ⟨2, rfl, both⟩)
    (fun _ => ⟨_, (storable encoded).encode_eq⟩)
  constructor
  · obtain ⟨output, ran, -, encoded, -⟩ := run true
    obtain ⟨opening, accepted, rfl, -⟩ := encoded rfl
    exact ⟨opening, accepted, ran⟩
  · obtain ⟨output, ran, -, -, asText, -⟩ := run false
    exact ⟨output, ran, asText rfl⟩

end TickWire
