import TickWire.Proofs.Metadata.Fields
import TickWire.Proofs.Record.ErrorText

/-!
# Texts that are stored in fields

Fields of metadata accept plain characters, fields of records any; both need room for a zero
byte after the text.  Neither refuses a text with a zero character inside, though reading ends
there, so that of such a text only the front comes back.
-/

namespace TickWire

open Terminated (beforeZero)

variable {width : Nat} {text : String}

theorem exists_fixedText_iff :
    (∃ bytes, fixedText width text = .ok bytes) ↔
      (∀ char ∈ text.toList, char.toNat < 0x80) ∧ textLength text < width := by
  constructor
  · rintro ⟨bytes, accepted⟩
    obtain ⟨plain, short, -⟩ := fixedText_eq_ok_iff.mp accepted
    exact ⟨plain, short⟩
  · rintro ⟨plain, short⟩
    exact ⟨_, fixedText_eq_ok_iff.mpr ⟨plain, short, rfl⟩⟩

theorem textOf_of_fixedText {bytes : Bytes} (accepted : fixedText width text = .ok bytes)
    (field : String) : BlockReader.textOf field bytes = .ok (beforeZero text) := by
  obtain ⟨-, -, rfl⟩ := fixedText_eq_ok_iff.mp accepted
  exact BlockReader.textOf_paddedText field width text

theorem Terminated.exists_write_iff :
    (∃ row, write width text = .ok row) ↔ textLength text ≤ width - 1 := by
  constructor
  · rintro ⟨row, written⟩
    exact (write_eq_ok_iff.mp written).1
  · intro short
    exact ⟨_, write_eq_ok_iff.mpr ⟨short, rfl⟩⟩

namespace Record

theorem readText_systemMessage {eventTime : UInt64} {message : String}
    {record : Record ⟨.system, false⟩} (made : systemMessage eventTime message = .ok record) :
    record.readText "msg" = .ok (beforeZero message) := by
  have empty (header : Header) :
      ({ initial ⟨.system, false⟩ with header } : Record _).text? "msg" =
        some (List.replicate 303 0) := rfl
  obtain ⟨row, written, made⟩ := ok_of_bind made
  cases made
  rw [readText, text?_setText_of_empty (empty _) row]
  exact Terminated.read_write written

/-- Neither of the two symbols of a mapping changes the other. -/
theorem readText_symbolMapping {message : MappingMessage}
    {record : Record ⟨.symbolMapping, false⟩} (made : symbolMapping message = .ok record) :
    record.readText "stype_in_symbol" = .ok (beforeZero message.symbolIn) ∧
      record.readText "stype_out_symbol" = .ok (beforeZero message.symbolOut) := by
  have emptyIn (header : Header) :
      ({ initial ⟨.symbolMapping, false⟩ with header } : Record _).text? "stype_in_symbol" =
        some (List.replicate symbolWidth 0) := rfl
  have emptyOut (header : Header) :
      ({ initial ⟨.symbolMapping, false⟩ with header } : Record _).text? "stype_out_symbol" =
        some (List.replicate symbolWidth 0) := rfl
  obtain ⟨rowIn, writtenIn, made⟩ := ok_of_bind made
  obtain ⟨rowOut, writtenOut, made⟩ := ok_of_bind made
  cases made
  constructor
  · rw [readText, text?_setInt, text?_setInt, text?_setText_of_ne _ (by decide), text?_setInt,
      text?_setText_of_empty ?_ rowIn]
    · exact Terminated.read_write writtenIn
    · exact (text?_setInt ..).trans (emptyIn _)
  · rw [readText, text?_setInt, text?_setInt, text?_setText_of_empty ?_ rowOut]
    · exact Terminated.read_write writtenOut
    · rw [text?_setInt, text?_setText_of_ne _ (by decide), text?_setInt]
      exact emptyOut _

end Record

/-- Of a text that a field accepts the characters before the first zero character are read back,
and they are the whole text if and only if it has no such character.  A field of metadata is
filled up to its width; it accepts plain characters with room for a zero byte, and a field of a
record any characters with that room. -/
theorem storedText_read_back (width : Nat) (text : String) :
    (∀ bytes, fixedText width text = .ok bytes → bytes.length = width ∧
      ∀ field, BlockReader.textOf field bytes = .ok (beforeZero text)) ∧
    ((∃ bytes, fixedText width text = .ok bytes) ↔
      (∀ char ∈ text.toList, char.toNat < 0x80) ∧ textLength text < width) ∧
    (∀ row, Terminated.write width text = .ok row →
      Terminated.read row.toList = .ok (beforeZero text)) ∧
    ((∃ row, Terminated.write width text = .ok row) ↔ textLength text ≤ width - 1) ∧
    (∀ eventTime record, Record.systemMessage eventTime text = .ok record →
      record.readText "msg" = .ok (beforeZero text)) ∧
    (∀ message record, Record.symbolMapping message = .ok record →
      record.readText "stype_in_symbol" = .ok (beforeZero message.symbolIn) ∧
        record.readText "stype_out_symbol" = .ok (beforeZero message.symbolOut)) ∧
    (beforeZero text = text ↔ '\x00' ∉ text.toList) := by
  exact ⟨fun bytes accepted => ⟨length_of_fixedText accepted, textOf_of_fixedText accepted⟩,
    exists_fixedText_iff, fun row => Terminated.read_write, Terminated.exists_write_iff,
    fun eventTime record => Record.readText_systemMessage,
    fun message record => Record.readText_symbolMapping, Terminated.beforeZero_eq_self_iff⟩

/-- A symbol that leaves room for just the zero byte, and a message whose characters are not
plain. -/
theorem storedText_read_back_fitting :
    (fixedText 5 "ESH4" = .ok [69, 83, 72, 52, 0] ∧
      BlockReader.textOf "symbol" [69, 83, 72, 52, 0] = .ok "ESH4") ∧
    (∃ row, Terminated.write 7 "naïve" = .ok row ∧ Terminated.read row.toList = .ok "naïve") ∧
    (∃ record, Record.systemMessage 5 "naïve" = .ok record ∧
      record.readText "msg" = .ok "naïve") := by
  obtain ⟨stored, -, -, -, -, -, wholeSymbol⟩ := storedText_read_back 5 "ESH4"
  obtain ⟨-, -, read, writes, readMessage, -, wholeMessage⟩ := storedText_read_back 7 "naïve"
  have accepted : fixedText 5 "ESH4" = .ok [69, 83, 72, 52, 0] := rfl
  obtain ⟨row, written⟩ := writes.mpr (by decide +kernel)
  have made : Record.systemMessage 5 "naïve" = .ok _ := rfl
  have kept := (stored _ accepted).2 "symbol"
  rw [wholeSymbol.mpr (by decide +kernel)] at kept
  rw [wholeMessage.mpr (by decide +kernel)] at read readMessage
  exact ⟨⟨accepted, kept⟩, ⟨row, written, read row written⟩, ⟨_, made, readMessage 5 _ made⟩⟩

/-- A text with a zero character inside is accepted everywhere, and comes back shortened. -/
theorem storedText_shortened :
    (fixedText 8 "A\x00B" = .ok [65, 0, 66, 0, 0, 0, 0, 0] ∧
      BlockReader.textOf "symbol" [65, 0, 66, 0, 0, 0, 0, 0] = .ok "A") ∧
    (∃ row, Terminated.write 8 "A\x00B" = .ok row ∧ Terminated.read row.toList = .ok "A") ∧
    (∃ record, Record.systemMessage 5 "A\x00B" = .ok record ∧
      record.readText "msg" = .ok "A") ∧ "A" ≠ "A\x00B" := by
  have front : beforeZero "A\x00B" = "A" := by decide +kernel
  have accepted : fixedText 8 "A\x00B" = .ok [65, 0, 66, 0, 0, 0, 0, 0] := rfl
  have written : Terminated.write 8 "A\x00B" = .ok _ := rfl
  have made : Record.systemMessage 5 "A\x00B" = .ok _ := rfl
  refine ⟨⟨accepted, ?_⟩, ⟨_, written, ?_⟩, ⟨_, made, ?_⟩, by decide⟩
  · rw [textOf_of_fixedText accepted, front]
  · rw [Terminated.read_write written, front]
  · rw [Record.readText_systemMessage made, front]

end TickWire
