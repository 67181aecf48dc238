import Mathlib.Data.List.TakeWhile
import TickWire.Proofs.Metadata.Prelude

/-!
# Metadata that was read

Texts that are read from a block hold no zero character, symbol fields have a size that can
be stored, and no end of the range is the one that stands for none.  Upgrading keeps this.
So metadata that was read can be stored as soon as the encoder accepts it and its block is
not too long.
-/

namespace TickWire

/-- A text without a zero character, which would end it where it is read. -/
def IsUncut (text : String) : Prop := ∀ char ∈ text.toList, 0 < char.toNat

/-- A mapping whose texts hold no zero character. -/
structure SymbolMapping.IsUncut (mapping : SymbolMapping) : Prop where
  rawSymbol : TickWire.IsUncut mapping.rawSymbol
  symbols : ∀ interval ∈ mapping.intervals, TickWire.IsUncut interval.symbol

/-- What is true of all metadata that is read from a block. -/
structure Metadata.IsLegible (metadata : Metadata) : Prop where
  layout : Metadata.HasLayout metadata.version metadata.symbolWidth
  dataset : IsUncut metadata.dataset
  symbols : ∀ symbol ∈ metadata.symbols, IsUncut symbol
  partiallyFound : ∀ symbol ∈ metadata.partiallyFound, IsUncut symbol
  notFound : ∀ symbol ∈ metadata.notFound, IsUncut symbol
  mappings : ∀ mapping ∈ metadata.mappings, mapping.IsUncut
  endTime : ∀ time, metadata.endTime = some time → time.value.toNat ≠ nullEndTime

/-! ## What readers ensure -/

namespace BlockReader

theorem isUncut_of_textOf {field : String} {bytes : Bytes} {text : String}
    (read : textOf field bytes = .ok text) : IsUncut text := by
  unfold textOf at read
  split at read
  next chars decoded =>
    cases read
    intro char member
    apply Nat.pos_of_ne_zero
    intro zero
    -- The character would come from a zero byte, and the text ends before the first one.
    have encoded : Utf8.encodeChar char = [0] := by
      rw [Utf8.encodeChar_of_ascii (by omega), zero]
      rfl
    have inBytes : 0 ∈ Utf8.encode chars :=
      List.mem_flatMap.mpr ⟨char, by simpa using member, by simp [encoded]⟩
    rw [Utf8.encode_of_decode decoded] at inBytes
    have kept := List.mem_takeWhile_imp inBytes
    contradiction
  next => cases read

theorem ensures_text (width : Nat) (field : String) :
    Ensures (BlockReader.text width field) IsUncut :=
  .bind fun _ => .lift fun _ => isUncut_of_textOf

theorem isUncut_of_textsOf {width : Nat} {field : String} {count index : Nat} {bytes : Bytes}
    {texts : List String} (read : textsOf width field count index bytes = .ok texts) :
    ∀ text ∈ texts, IsUncut text := by
  induction count generalizing index bytes texts with
  | zero =>
      cases read
      nofun
  | succ count ih =>
      obtain ⟨first, readFirst, read⟩ := ok_of_bind read
      obtain ⟨others, readOthers, read⟩ := ok_of_bind read
      cases read
      rw [List.forall_mem_cons]
      exact ⟨isUncut_of_textOf readFirst, ih readOthers⟩

theorem ensures_texts (width : Nat) (field : String) :
    Ensures (BlockReader.texts width field) fun texts => ∀ text ∈ texts, IsUncut text :=
  .bind fun _ => .bind fun _ => .lift fun _ => isUncut_of_textsOf

theorem ensures_intervals (width : Nat) (rawSymbol : String) (count index : Nat) :
    Ensures (intervals width rawSymbol count index) fun found =>
      ∀ interval ∈ found, IsUncut interval.symbol := by
  induction count generalizing index with
  | zero => exact .pure nofun
  | succ count ih =>
      refine .bind fun startDate => .bind fun endDate => ?_
      refine (ensures_text _ _).bind_of fun symbol uncut => ?_
      refine (ih (index + 1)).bind_of fun others rest => ?_
      apply Ensures.pure
      rw [List.forall_mem_cons]
      exact ⟨uncut, rest⟩

theorem ensures_mappings (width count index : Nat) :
    Ensures (mappings width count index) fun found => ∀ mapping ∈ found, mapping.IsUncut := by
  induction count generalizing index with
  | zero => exact .pure nofun
  | succ count ih =>
      refine (ensures_text _ _).bind_of fun rawSymbol uncut => .bind fun intervalCount => ?_
      refine (ensures_intervals _ _ _ _).bind_of fun intervals symbols => ?_
      refine (ih (index + 1)).bind_of fun others rest => ?_
      apply Ensures.pure
      rw [List.forall_mem_cons]
      exact ⟨⟨uncut, symbols⟩, rest⟩

theorem ensures_take (count : Nat) (field : String) :
    Ensures (take count field) fun bytes => bytes.length = count := by
  intro position bytes after ran
  unfold take at ran
  split at ran
  next enough =>
    cases ran
    exact List.length_take_of_le enough
  next => cases ran

theorem ensures_number (width : Nat) (field : String) :
    Ensures (number width field) fun found => found < LittleEndian.capacity width := by
  refine (ensures_take _ _).bind_of fun bytes length => .pure ?_
  rw [← length]
  exact LittleEndian.decode_lt bytes

theorem version_cases {version : UInt8} (supported : isSupported version) :
    version = 1 ∨ version = 2 := by
  have bounds : 1 ≤ version ∧ version ≤ formatVersion := of_decide_eq_true supported
  simp only [UInt8.le_iff_toNat_le, ← UInt8.toNat_inj] at bounds ⊢
  change 1 ≤ version.toNat ∧ version.toNat ≤ 2 at bounds
  change version.toNat = 1 ∨ version.toNat = 2
  omega

theorem ensures_symbolWidth {version : UInt8} (supported : isSupported version) :
    Ensures (symbolWidth version) (Metadata.HasLayout version) := by
  unfold symbolWidth
  dsimp only
  rcases version_cases supported with rfl | rfl
  · rw [if_pos rfl]
    rintro position width after ⟨⟩
    exact .inl ⟨rfl, rfl⟩
  · rw [if_neg (by decide)]
    refine (ensures_number _ _).bind_of fun width bound => ?_
    split
    next => exact .throw_bind _
    next nonzero =>
      exact .pure (.inr ⟨rfl, Nat.pos_of_ne_zero nonzero, Nat.le_of_lt_succ bound⟩)

theorem endTime_ne_null {stored : Nat} (bound : stored < LittleEndian.capacity 8)
    (time : NonZero)
    (found : (if stored = nullEndTime then none else NonZero.of? (UInt64.ofNat stored)) =
      some time) :
    time.value.toNat ≠ nullEndTime := by
  split at found
  next => cases found
  next notNull =>
    unfold NonZero.of? at found
    split at found
    next =>
      cases found
      have whole : (UInt64.ofNat stored).toNat = stored :=
        UInt64.toNat_ofNat'.trans (Nat.mod_eq_of_lt bound)
      rw [whole]
      exact notNull
    next => cases found

/-- What every block says of the metadata in it. -/
theorem ensures_metadata {version : UInt8} (supported : isSupported version) :
    Ensures (BlockReader.metadata version) Metadata.IsLegible := by
  unfold BlockReader.metadata
  dsimp only
  -- One step for each field, in the order in which they are read.
  refine (ensures_text _ _).bind_of fun dataset datasetUncut => ?_
  refine .bind fun schema => .bind fun startTime => ?_
  refine (ensures_number _ _).bind_of fun endTime endTimeBound => .bind fun limit => ?_
  refine .optional ?_
  refine .bind fun symbologyIn => .bind fun _ => .bind fun symbologyOut => .bind fun stamped => ?_
  refine (ensures_symbolWidth supported).bind_of fun width layout => ?_
  refine .bind fun _ => .bind fun definitionLength => ?_
  split
  next => exact .throw_bind _
  next =>
    refine (ensures_texts _ _).bind_of fun symbols symbolsUncut => ?_
    refine (ensures_texts _ _).bind_of fun partiallyFound partiallyFoundUncut => ?_
    refine (ensures_texts _ _).bind_of fun notFound notFoundUncut => ?_
    refine .bind fun mappingCount => ?_
    refine (ensures_mappings _ _ _).bind_of fun mappings mappingsUncut => .pure ?_
    exact ⟨layout, datasetUncut, symbolsUncut, partiallyFoundUncut, notFoundUncut,
      mappingsUncut, endTime_ne_null endTimeBound⟩

end BlockReader

section Decoded

variable {version : UInt8} {block : Bytes} {metadata : Metadata}

theorem read_of_decodeMetadata (accepted : decodeMetadata version block = .ok metadata) :
    isSupported version ∧
      ∃ after, BlockReader.metadata version ⟨0, block⟩ = .ok (metadata, after) := by
  have supported := (version_of_decodeMetadata accepted).1
  rw [decodeMetadata, checkVersion, if_pos supported, ok_bind] at accepted
  obtain ⟨⟨found, after⟩, read, given⟩ := ok_of_bind accepted
  cases given
  exact ⟨supported, after, read⟩

theorem isLegible_of_decodeMetadata (accepted : decodeMetadata version block = .ok metadata) :
    metadata.IsLegible := by
  obtain ⟨supported, after, read⟩ := read_of_decodeMetadata accepted
  exact BlockReader.ensures_metadata supported _ _ _ read

end Decoded

theorem MetadataBlock.isLegible (block : MetadataBlock) : block.metadata.IsLegible :=
  isLegible_of_decodeMetadata block.fields_accepted

/-! ## What the encoder accepts -/

namespace IsUncut

variable {width : Nat}

theorem fits_of_fixedText {text : String} (uncut : IsUncut text) {bytes : Bytes}
    (accepted : fixedText width text = .ok bytes) : FitsField width text := by
  obtain ⟨ascii, short, -⟩ := fixedText_eq_ok_iff.mp accepted
  exact ⟨fun char member => ⟨uncut char member, ascii char member⟩, short⟩

theorem fit_of_fixedTexts {texts : List String} (uncut : ∀ text ∈ texts, IsUncut text)
    {bytes : Bytes} (accepted : fixedTexts width texts = .ok bytes) :
    ∀ text ∈ texts, FitsField width text := by
  induction texts generalizing bytes with
  | nil => nofun
  | cons first others ih =>
      rw [List.forall_mem_cons] at uncut ⊢
      obtain ⟨head, acceptedFirst, accepted⟩ := ok_of_bind accepted
      obtain ⟨tail, acceptedOthers, -⟩ := ok_of_bind accepted
      exact ⟨uncut.1.fits_of_fixedText acceptedFirst, ih uncut.2 acceptedOthers⟩

end IsUncut

/-- What the encoder writes is a whole block, also where no decoder reads it. -/
theorem Metadata.isWholeBlock_of_encode {metadata : Metadata} {written : Bytes}
    (accepted : metadata.encode = .ok written) :
    ∃ start fields, written = start ++ fields ∧ IsWholeBlock start fields := by
  obtain ⟨supported, fields, -, small, rfl⟩ := exists_fields_of_encode accepted
  refine ⟨_, fields, rfl, rfl, ?_⟩
  intro version announced prelude
  rw [decodePrelude_preludeBytes supported small] at prelude
  split at prelude
  · cases prelude
  · split at prelude
    · cases prelude
    · cases prelude
      rfl

section Accepted

variable {width : Nat} {bytes : Bytes}

theorem fit_of_textList {texts : List String} (uncut : ∀ text ∈ texts, IsUncut text)
    (accepted : textList width texts = .ok bytes) :
    texts.length < LittleEndian.capacity 4 ∧ ∀ text ∈ texts, FitsField width text := by
  obtain ⟨count, counted, accepted⟩ := ok_of_bind accepted
  obtain ⟨listed, acceptedTexts, -⟩ := ok_of_bind accepted
  exact ⟨(small_of_fixedNumber counted).1, IsUncut.fit_of_fixedTexts uncut acceptedTexts⟩

theorem fit_of_intervalList {intervals : List MappingInterval}
    (uncut : ∀ interval ∈ intervals, IsUncut interval.symbol)
    (accepted : intervalList width intervals = .ok bytes) :
    ∀ interval ∈ intervals, FitsField width interval.symbol := by
  induction intervals generalizing bytes with
  | nil => nofun
  | cons first others ih =>
      rw [List.forall_mem_cons] at uncut ⊢
      obtain ⟨symbol, acceptedSymbol, accepted⟩ := ok_of_bind accepted
      obtain ⟨tail, acceptedOthers, -⟩ := ok_of_bind accepted
      exact ⟨uncut.1.fits_of_fixedText acceptedSymbol, ih uncut.2 acceptedOthers⟩

theorem fit_of_mappingList {mappings : List SymbolMapping}
    (uncut : ∀ mapping ∈ mappings, mapping.IsUncut)
    (accepted : mappingList width mappings = .ok bytes) :
    (∀ mapping ∈ mappings, mapping.Fits width) ∧
      ∀ mapping ∈ mappings, mapping.intervals.length < LittleEndian.capacity 4 := by
  induction mappings generalizing bytes with
  | nil => exact ⟨nofun, nofun⟩
  | cons first others ih =>
      rw [List.forall_mem_cons] at uncut
      rw [List.forall_mem_cons, List.forall_mem_cons]
      obtain ⟨rawSymbol, acceptedSymbol, accepted⟩ := ok_of_bind accepted
      obtain ⟨count, counted, accepted⟩ := ok_of_bind accepted
      obtain ⟨listed, acceptedIntervals, accepted⟩ := ok_of_bind accepted
      obtain ⟨tail, acceptedOthers, -⟩ := ok_of_bind accepted
      have fits := uncut.1.rawSymbol.fits_of_fixedText acceptedSymbol
      have symbols := fit_of_intervalList uncut.1.symbols acceptedIntervals
      obtain ⟨othersFit, othersFew⟩ := ih uncut.2 acceptedOthers
      exact ⟨⟨⟨fits, symbols⟩, othersFit⟩, (small_of_fixedNumber counted).1, othersFew⟩

end Accepted

/-! ## Metadata that is written again -/

/-- What was upgraded is left as it is by the same policy. -/
theorem Metadata.settled_upgrade (metadata : Metadata) (policy : UpgradePolicy) :
    (metadata.upgrade policy).version ≠ 1 ∨ policy ≠ .upgrade := by
  cases policy with
  | asIs => exact .inr (by decide)
  | upgrade =>
      have current : formatVersion ≠ 1 := by decide
      left
      rw [Metadata.upgrade]
      split
      next => exact current
      next notBelow =>
        intro first
        rw [first] at notBelow
        contradiction

namespace Metadata.IsLegible

variable {metadata : Metadata}

theorem fit_of_encodeFields (legible : metadata.IsLegible) {fields : Bytes}
    (accepted : metadata.encodeFields = .ok fields) :
    metadata.TextsFit ∧ metadata.IsCountable := by
  -- Every part of the block was written, in this order.
  obtain ⟨_, dataset, accepted⟩ := ok_of_bind accepted
  obtain ⟨_, -, accepted⟩ := ok_of_bind accepted
  obtain ⟨_, symbols, accepted⟩ := ok_of_bind accepted
  obtain ⟨_, partiallyFound, accepted⟩ := ok_of_bind accepted
  obtain ⟨_, notFound, accepted⟩ := ok_of_bind accepted
  obtain ⟨_, mappingCount, accepted⟩ := ok_of_bind accepted
  obtain ⟨_, mappings, -⟩ := ok_of_bind accepted
  obtain ⟨fewSymbols, symbolsFit⟩ := fit_of_textList legible.symbols symbols
  obtain ⟨fewPartial, partialFit⟩ := fit_of_textList legible.partiallyFound partiallyFound
  obtain ⟨fewNotFound, notFoundFit⟩ := fit_of_textList legible.notFound notFound
  obtain ⟨mappingsFit, fewIntervals⟩ := fit_of_mappingList legible.mappings mappings
  constructor
  · exact ⟨legible.dataset.fits_of_fixedText dataset, symbolsFit, partialFit, notFoundFit,
      mappingsFit⟩
  · exact ⟨fewSymbols, fewPartial, fewNotFound, (small_of_fixedNumber mappingCount).1, fewIntervals⟩

/-- Metadata that was read can be stored if its texts fit and its block is not longer than
a block may be. -/
theorem isStorable_of_textsFit (legible : metadata.IsLegible) (fit : metadata.TextsFit)
    (small : metadata.fieldsSize ≤ metadataMaximumSize) : metadata.IsStorable where
  toTextsFit := fit
  layout := legible.layout
  endTime := legible.endTime
  fieldsSize_le := small

/-- Metadata that was read can be stored if the encoder accepts it and its block is not
longer than a block may be. -/
theorem isStorable (legible : metadata.IsLegible) {bytes : Bytes}
    (encoded : metadata.encode = .ok bytes)
    (short : bytes.length ≤ preludeSize + metadataMaximumSize) : metadata.IsStorable := by
  obtain ⟨-, fields, encodedFields, -, -⟩ := exists_fields_of_encode encoded
  obtain ⟨fit, -⟩ := legible.fit_of_encodeFields encodedFields
  have size := length_of_encode encoded
  exact legible.isStorable_of_textsFit fit (by omega)

/-- Without upgrading, metadata that was read stays as it is. -/
theorem upgrade_asIs (legible : metadata.IsLegible) : metadata.upgrade .asIs = metadata := by
  rw [Metadata.upgrade]
  split
  next below =>
    have width : symbolWidthOf metadata.version = metadata.symbolWidth := by
      rcases legible.layout with ⟨version, width⟩ | ⟨version, -⟩
      · rw [version, width]
        rfl
      · rw [version] at below
        contradiction
    rw [width]
  next => rfl

/-- Metadata of a version that the policy does not upgrade stays as it is. -/
theorem upgrade_of_settled (legible : metadata.IsLegible) {policy : UpgradePolicy}
    (settled : metadata.version ≠ 1 ∨ policy ≠ .upgrade) :
    metadata.upgrade policy = metadata := by
  cases policy with
  | asIs => exact legible.upgrade_asIs
  | upgrade =>
      have notFirst : metadata.version ≠ 1 := settled.resolve_right (not_not_intro rfl)
      have second : metadata.version = 2 := by
        rcases legible.layout with ⟨first, -⟩ | ⟨second, -⟩
        · contradiction
        · exact second
      have notBelow : ¬metadata.version < formatVersion := by
        rw [second]
        decide
      rw [Metadata.upgrade, if_neg notBelow]

theorem upgrade (legible : metadata.IsLegible) (policy : UpgradePolicy) :
    (metadata.upgrade policy).IsLegible := by
  cases policy with
  | asIs =>
      rw [legible.upgrade_asIs]
      exact legible
  | upgrade =>
      have wide : 1 ≤ TickWire.symbolWidth ∧ TickWire.symbolWidth ≤ 65535 := by decide
      rw [Metadata.upgrade]
      split
      next =>
        exact ⟨.inr ⟨rfl, wide⟩, legible.dataset, legible.symbols, legible.partiallyFound,
          legible.notFound, legible.mappings, legible.endTime⟩
      next => exact legible

end Metadata.IsLegible

end TickWire
