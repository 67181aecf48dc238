import TickWire.Proofs.Metadata.Extent

/-!
# Normal form of metadata

A decoder takes many blocks for the same metadata: it passes over what stands after the end
of a text, over the unused part and the record count, and over what follows the last list.
None of this is needed again.  Metadata that was read is written whenever its texts are
plain and shorter than their fields, in a block that is no longer than the one it was read
from, and reading that block gives it back.
-/

namespace TickWire

/-! ## Texts and their fields -/

/-- A text and the size of the field that holds it. -/
structure TextField where
  width : Nat
  text : String

/-- A field can hold a text in ASCII that leaves room for a zero byte. -/
structure TextField.HoldsText (field : TextField) : Prop where
  ascii : ∀ char ∈ field.text.toList, char.toNat < 0x80
  short : textLength field.text < field.width

/-- The texts of a mapping: its symbol, and one for each interval. -/
def SymbolMapping.texts (mapping : SymbolMapping) : List String :=
  mapping.rawSymbol :: mapping.intervals.map MappingInterval.symbol

namespace Metadata

/-- The symbols in all lists. -/
def listedTexts (metadata : Metadata) : List String :=
  metadata.symbols ++ metadata.partiallyFound ++ metadata.notFound
    ++ metadata.mappings.flatMap SymbolMapping.texts

/-- Every text with the size of its field. -/
def textFields (metadata : Metadata) : List TextField :=
  ⟨datasetWidth, metadata.dataset⟩ :: metadata.listedTexts.map (TextField.mk metadata.symbolWidth)

end Metadata

theorem FitsField.holdsText {width : Nat} {text : String} (fits : FitsField width text) :
    TextField.HoldsText ⟨width, text⟩ :=
  ⟨fun char member => (fits.plain char member).2, fits.short⟩

theorem IsUncut.fitsField {width : Nat} {text : String} (uncut : IsUncut text)
    (holds : TextField.HoldsText ⟨width, text⟩) : FitsField width text :=
  ⟨fun char member => ⟨uncut char member, holds.ascii char member⟩, holds.short⟩

/-! ## Metadata whose texts are held -/

namespace Metadata

variable {metadata : Metadata}

theorem forall_textFields_iff (property : TextField → Prop) :
    (∀ field ∈ metadata.textFields, property field) ↔
      property ⟨datasetWidth, metadata.dataset⟩ ∧
      (∀ symbol ∈ metadata.symbols, property ⟨metadata.symbolWidth, symbol⟩) ∧
      (∀ symbol ∈ metadata.partiallyFound, property ⟨metadata.symbolWidth, symbol⟩) ∧
      (∀ symbol ∈ metadata.notFound, property ⟨metadata.symbolWidth, symbol⟩) ∧
      ∀ mapping ∈ metadata.mappings, property ⟨metadata.symbolWidth, mapping.rawSymbol⟩ ∧
        ∀ interval ∈ mapping.intervals, property ⟨metadata.symbolWidth, interval.symbol⟩ := by
  simp only [textFields, listedTexts, SymbolMapping.texts, List.forall_mem_cons,
    List.forall_mem_map, List.forall_mem_append, List.forall_mem_flatMap, and_assoc]

theorem TextsFit.holdTexts (fit : metadata.TextsFit) :
    ∀ field ∈ metadata.textFields, field.HoldsText := by
  rw [forall_textFields_iff]
  exact ⟨fit.dataset.holdsText, fun symbol member => (fit.symbols symbol member).holdsText,
    fun symbol member => (fit.partiallyFound symbol member).holdsText,
    fun symbol member => (fit.notFound symbol member).holdsText,
    fun mapping member => ⟨(fit.mappings mapping member).rawSymbol.holdsText,
      fun interval isPart => ((fit.mappings mapping member).symbols interval isPart).holdsText⟩⟩

namespace IsLegible

theorem textsFit (legible : metadata.IsLegible)
    (holdTexts : ∀ field ∈ metadata.textFields, field.HoldsText) : metadata.TextsFit := by
  rw [forall_textFields_iff] at holdTexts
  obtain ⟨dataset, symbols, partiallyFound, notFound, mappings⟩ := holdTexts
  exact {
    dataset := legible.dataset.fitsField dataset
    symbols := fun symbol member =>
      (legible.symbols symbol member).fitsField (symbols symbol member)
    partiallyFound := fun symbol member =>
      (legible.partiallyFound symbol member).fitsField (partiallyFound symbol member)
    notFound := fun symbol member =>
      (legible.notFound symbol member).fitsField (notFound symbol member)
    mappings := fun mapping member => {
      rawSymbol := (legible.mappings mapping member).rawSymbol.fitsField (mappings mapping member).1
      symbols := fun interval isPart =>
        ((legible.mappings mapping member).symbols interval isPart).fitsField
          ((mappings mapping member).2 interval isPart) } }

theorem textsFit_of_encode (legible : metadata.IsLegible) {written : Bytes}
    (encoded : metadata.encode = .ok written) : metadata.TextsFit := by
  obtain ⟨-, fields, encodedFields, -, -⟩ := exists_fields_of_encode encoded
  exact (legible.fit_of_encodeFields encodedFields).1

end IsLegible

end Metadata

/-- Metadata that was read from any block is written exactly when each of its texts is in
ASCII and shorter than its field.  The fields that are written are no longer than the block
that was read, and they are a whole block of the same metadata. -/
theorem decodeMetadata_normal (version : UInt8) (block : Bytes) (metadata : Metadata)
    (small : block.length ≤ metadataMaximumSize)
    (accepted : decodeMetadata version block = .ok metadata) :
    ((∃ written, metadata.encode = .ok written) ↔
      ∀ field ∈ metadata.textFields, field.HoldsText) ∧
    ∀ written, metadata.encode = .ok written →
      ∃ start fields, written = start ++ fields ∧ start.length = preludeSize ∧
        fields.length ≤ block.length ∧
        decodePrelude start = .ok (version, fields.length) ∧
        decodeMetadata version fields = .ok metadata ∧
        ∀ (source : Source) (rest : Bytes), source.IsSteady → source.rest = written ++ rest →
          ∃ after, readMetadata source = (.ok metadata, after) ∧ after.rest = rest := by
  have legible := isLegible_of_decodeMetadata accepted
  have covered := fieldsSize_le_of_decodeMetadata accepted
  have sameVersion := (version_of_decodeMetadata accepted).2
  have storable := fun fit =>
    legible.isStorable_of_textsFit fit (Nat.le_trans covered small)
  refine ⟨⟨?_, ?_⟩, ?_⟩
  · rintro ⟨written, encoded⟩
    exact (legible.textsFit_of_encode encoded).holdTexts
  · intro holdTexts
    exact ⟨_, (storable (legible.textsFit holdTexts)).encode_eq⟩
  · intro written encoded
    have stored := storable (legible.textsFit_of_encode encoded)
    have size := stored.length_fieldBytes
    rw [stored.encode_eq] at encoded
    cases encoded
    refine ⟨metadata.startBytes, metadata.fieldBytes, rfl, metadata.length_startBytes,
      size.trans_le covered, ?_, ?_, ?_⟩
    · rw [size, ← sameVersion]
      exact stored.decodePrelude_startBytes
    · rw [← sameVersion]
      exact stored.decodeMetadata_fieldBytes
    · intro source rest steady holds
      obtain ⟨after, ran, left, -⟩ := stored.readMetadata_written steady holds
      exact ⟨after, ran, left⟩

/-- The fields of a block of version 1 that no encoder writes: texts that go on after their
ends, a record count, an unused part that is not empty, and bytes after the last list. -/
def untidyBlock : Bytes :=
  [0x58, 0x4E, 0x41, 0x53, 0] ++ List.replicate 11 7
    ++ [0, 0] ++ List.replicate 24 0 ++ List.replicate 8 5 ++ [0xFF, 1, 2]
    ++ List.replicate 47 9 ++ List.replicate 4 0
    ++ [1, 0, 0, 0] ++ [0x45, 0x53, 0] ++ List.replicate 19 7
    ++ List.replicate 12 0 ++ [1, 2, 3]

/-- What is read from the untidy block. -/
def Metadata.ofUntidyBlock : Metadata where
  version := 1
  dataset := "XNAS"
  schema := some .mbo
  startTime := 0
  endTime := none
  limit := none
  symbologyIn := none
  symbologyOut := .rawSymbol
  stamped := true
  symbolWidth := symbolWidthV1
  symbols := ["ES"]
  partiallyFound := []
  notFound := []
  mappings := []

/-- The untidy block is read, and what is read from it is written and read again. -/
theorem decodeMetadata_normal_untidy :
    decodeMetadata 1 untidyBlock = .ok .ofUntidyBlock ∧
      ∃ start fields, Metadata.ofUntidyBlock.encode = .ok (start ++ fields) ∧
        fields.length ≤ untidyBlock.length ∧
        decodeMetadata 1 fields = .ok .ofUntidyBlock := by
  have accepted : decodeMetadata 1 untidyBlock = .ok .ofUntidyBlock := by decide +kernel
  have small : untidyBlock.length ≤ metadataMaximumSize := by decide +kernel
  have fit : Metadata.ofUntidyBlock.TextsFit :=
    ⟨by decide, by decide, nofun, nofun, nofun⟩
  obtain ⟨written_iff, whole⟩ :=
    decodeMetadata_normal 1 untidyBlock .ofUntidyBlock small accepted
  obtain ⟨written, encoded⟩ := written_iff.mpr fit.holdTexts
  obtain ⟨start, fields, rfl, -, atMost, -, decoded, -⟩ := whole written encoded
  exact ⟨accepted, start, fields, encoded, atMost, decoded⟩

end TickWire
