import TickWire.Proofs.Text.Terminated
import TickWire.Record.Construct

/-!
# The text of an error message

An error message that a program makes has room for 301 bytes of text.  Up to there its text
is read back.  A longer one is cut at a byte, which need not be where a character ends.
-/

namespace TickWire

namespace Values

/-- A change of the fields of one name changes what is found under it and nothing else. -/
theorem get?_modify (name changed : String)
    (change : (type : FieldType) → type.Value → type.Value) (layout : Layout)
    (values : layout.Values) :
    get? name layout (modify changed change layout values) =
      (get? name layout values).map fun held =>
        if name = changed then ⟨held.type, change held.type held.value⟩ else held := by
  induction layout with
  | nil => rfl
  | cons field rest ih =>
      rw [modify, get?, get?]
      by_cases found : field.name = name
      · rw [if_pos found, if_pos found, Option.map_some, found]
        split <;> rfl
      · rw [if_neg found, if_neg found]
        exact ih values.2

/-- No text changes with an integer. -/
theorem text?_setInt (name changed : String) (number : Int) (layout : Layout)
    (values : layout.Values) :
    text? name layout (setInt changed number layout values) = text? name layout values := by
  rw [text?, setInt, get?_modify, text?]
  cases get? name layout values with
  | none => rfl
  | some held =>
      obtain ⟨type, value⟩ := held
      by_cases named : name = changed
      · cases type <;> simp [named, FieldValue.text?]
      · simp [named]

/-- The bytes that are put into a text are found in it. -/
theorem text?_setText (name : String) (bytes : Bytes) (layout : Layout)
    (values : layout.Values) :
    text? name layout (setText name bytes layout values) =
      (text? name layout values).map fun place =>
        (Row.ofList place.length 0 bytes).toList := by
  rw [text?, setText, get?_modify, text?]
  cases get? name layout values with
  | none => rfl
  | some held =>
      obtain ⟨type, value⟩ := held
      cases type with
      | text size =>
          obtain ⟨place, rfl⟩ := value
          simp [FieldValue.text?]
      | _ => simp [FieldValue.text?]

/-- A text of another name stays. -/
theorem text?_setText_of_ne {name changed : String} (other : name ≠ changed) (bytes : Bytes)
    (layout : Layout) (values : layout.Values) :
    text? name layout (setText changed bytes layout values) = text? name layout values := by
  simp only [text?, setText, get?_modify, if_neg other, Option.map_id']

end Values

namespace Record

open Terminated (signedNumbers)

variable {type : RecordType}

theorem text?_setInt (record : Record type) (name changed : String) (number : Int) :
    (record.setInt changed number).text? name = record.text? name :=
  Values.text?_setInt name changed number type.kind.layout record.fields

theorem text?_setText (record : Record type) (name : String) (bytes : Bytes) :
    (record.setText name bytes).text? name = (record.text? name).map fun place =>
      (Row.ofList place.length 0 bytes).toList :=
  Values.text?_setText name bytes type.kind.layout record.fields

theorem text?_setText_of_ne (record : Record type) {name changed : String}
    (other : name ≠ changed) (bytes : Bytes) :
    (record.setText changed bytes).text? name = record.text? name :=
  Values.text?_setText_of_ne other bytes type.kind.layout record.fields

/-- A row that is put into an empty field of its size is found there. -/
theorem text?_setText_of_empty {record : Record type} {name : String} {size : Nat}
    (empty : record.text? name = some (List.replicate size 0)) (row : Row UInt8 size) :
    (record.setText name row.toList).text? name = some row.toList := by
  rw [text?_setText, empty, Option.map_some, List.length_replicate, Row.ofList_toList]

theorem text?_errorMessage (eventTime : UInt64) (message : String) (isLast : Bool) :
    (errorMessage eventTime message isLast).text? "err" =
      some (Terminated.truncated 302 message).toList := by
  have empty (header : Header) :
      ({ initial ⟨.error, false⟩ with header } : Record _).text? "err" =
        some (List.replicate 302 0) := rfl
  rw [errorMessage, text?_setInt]
  exact text?_setText_of_empty (empty _) (Terminated.truncated 302 message)

/-- The text of an error message is read back if it has at most 301 bytes.  Of a longer one the
characters are read that fit, if they have 301 bytes together; otherwise the next of them is
cut, and reading fails at its first byte. -/
theorem readText_errorMessage (eventTime : UInt64) (message : String) (isLast : Bool)
    (noZero : '\x00' ∉ message.toList) :
    (textLength message ≤ 301 →
      (errorMessage eventTime message isLast).readText "err" = .ok message) ∧
    (301 < textLength message → ∃ shown next rest, message.toList = shown ++ next :: rest ∧
      (Utf8.encode shown).length ≤ 301 ∧ 301 < (Utf8.encode (shown ++ [next])).length ∧
      (errorMessage eventTime message isLast).readText "err" =
        if (Utf8.encode shown).length = 301 then .ok (String.ofList shown)
        else .error (.utf8 ⟨(Utf8.encode shown).length, none⟩
          s!"converting c_char array: {signedNumbers ((textBytes message).take 301 ++ [0])}")) := by
  rw [readText, text?_errorMessage]
  exact ⟨Terminated.read_truncated_of_le noZero, Terminated.read_truncated_of_lt noZero⟩

/-- A message that fits, and one of 303 bytes that is cut where a character ends. -/
theorem readText_errorMessage_fitting_and_cut :
    (errorMessage 5 "naïve" true).readText "err" = .ok "naïve" ∧
    (let message := String.ofList ('x' :: List.replicate 151 'é')
    ∃ shown next rest, message.toList = shown ++ next :: rest ∧
      (Utf8.encode shown).length ≤ 301 ∧ 301 < (Utf8.encode (shown ++ [next])).length ∧
      (errorMessage 5 message true).readText "err" =
        if (Utf8.encode shown).length = 301 then .ok (String.ofList shown)
        else .error (.utf8 ⟨(Utf8.encode shown).length, none⟩
          s!"converting c_char array: {signedNumbers ((textBytes message).take 301 ++ [0])}")) := by
  constructor
  · exact (readText_errorMessage 5 "naïve" true (by decide +kernel)).1 (by decide +kernel)
  · refine (readText_errorMessage 5 (String.ofList ('x' :: List.replicate 151 'é')) true ?_).2 ?_
    · rw [String.toList_ofList]
      decide
    · rw [textLength, textBytes, String.toList_ofList]
      decide +kernel

/-- A message of 302 bytes that is cut inside a character is not read at all. -/
theorem errorMessage_unreadable :
    '\x00' ∉ (String.ofList (List.replicate 151 'é')).toList ∧
    ∀ text, (errorMessage 5 (String.ofList (List.replicate 151 'é')) true).readText "err" ≠
      .ok text := by
  have noZero : '\x00' ∉ (String.ofList (List.replicate 151 'é')).toList := by
    rw [String.toList_ofList]
    decide
  have content : Terminated.content
      (Terminated.truncated 302 (String.ofList (List.replicate 151 'é'))).toList =
        (textBytes (String.ofList (List.replicate 151 'é'))).take 301 :=
    Terminated.content_truncated 301 noZero
  have cut : Utf8.decode ((Utf8.encode (List.replicate 151 'é')).take 301) =
      .error ⟨300, none⟩ := by decide +kernel
  refine ⟨noZero, fun text read => ?_⟩
  rw [readText, text?_errorMessage, Option.getD_some, Terminated.read, content, textBytes,
    String.toList_ofList, cut] at read
  cases read

end Record

end TickWire
