import Mathlib.Data.List.TakeWhile
import TickWire.Proofs.Text.Utf8
import TickWire.Text.Terminated

/-!
# Text in fields, read back

What follows the first zero byte of a field does not count, so that a text without a zero
character is read whole from every field that is long enough for it.  A text that is too
long loses its last bytes, and is read if what is left ends with a character.  A text with a
zero character is read up to there.
-/

namespace TickWire.Terminated

/-- A text ends before the zero bytes that fill its place. -/
theorem content_append_zeros (bytes : Bytes) (padding : Nat) :
    content (bytes ++ List.replicate padding 0) = content bytes := by
  induction bytes with
  | nil => cases padding <;> rfl
  | cons byte rest ih =>
      rw [List.cons_append, content, content, List.takeWhile_cons, List.takeWhile_cons]
      split
      · exact congrArg (byte :: ·) ih
      · rfl

/-- Only the content decides what is read, and whether anything is; what is said of bytes
that cannot be read shows all of them. -/
theorem toOption_read_congr {one two : Bytes} (same : content one = content two) :
    (read one).toOption = (read two).toOption := by
  rw [read, read, same]
  cases Utf8.decode (content two) <;> rfl

theorem content_of_notMem {bytes : Bytes} (noZero : 0 ∉ bytes) : content bytes = bytes := by
  refine List.takeWhile_eq_self_iff.mpr fun byte member => ?_
  exact decide_eq_true fun zero => noZero (zero ▸ member)

theorem zero_notMem_textBytes {text : String} (noZero : '\x00' ∉ text.toList) :
    0 ∉ textBytes text :=
  fun member => noZero (Utf8.mem_of_mem_encode member (by decide))

/-! ## Texts with a zero character -/

/-- The characters of a text before the first that is zero. -/
def beforeZero (text : String) : String :=
  String.ofList (text.toList.takeWhile (· ≠ '\x00'))

/-- No character is lost if and only if none of them is zero. -/
theorem beforeZero_eq_self_iff {text : String} :
    beforeZero text = text ↔ '\x00' ∉ text.toList := by
  rw [beforeZero, ← String.toList_inj, String.toList_ofList, List.takeWhile_eq_self_iff]
  constructor
  · exact fun nonzero member => of_decide_eq_true (nonzero _ member) rfl
  · exact fun noZero char member => decide_eq_true fun zero => noZero (zero ▸ member)

/-- Only the zero character has a zero byte, so the content of an encoding ends where a
character does. -/
theorem content_encode (chars : List Char) :
    content (Utf8.encode chars) = Utf8.encode (chars.takeWhile (· ≠ '\x00')) := by
  induction chars with
  | nil => rfl
  | cons char rest ih =>
      by_cases zero : char = '\x00'
      · subst zero
        rfl
      · have nonzero : ∀ byte ∈ Utf8.encodeChar char, decide (byte ≠ 0) = true := by
          intro byte member
          refine decide_eq_true fun isZero => ?_
          subst isZero
          have inChar : 0 ∈ Utf8.encode [char] := by simpa using member
          have found := Utf8.mem_of_mem_encode inChar (by decide)
          exact zero (List.mem_singleton.mp found).symm
        rw [List.takeWhile_cons, if_pos (decide_eq_true zero), Utf8.encode_cons,
          Utf8.encode_cons, content, List.takeWhile_append_of_pos nonzero]
        exact congrArg (Utf8.encodeChar char ++ ·) ih

/-- A text that zero bytes follow is decoded up to its first zero character. -/
theorem decode_content_padded (text : String) (padding : Nat) :
    Utf8.decode (content (textBytes text ++ List.replicate padding 0)) =
      .ok (text.toList.takeWhile (· ≠ '\x00')) := by
  rw [content_append_zeros, textBytes, content_encode, Utf8.decode_encode]

theorem write_eq_ok_iff {width : Nat} {text : String} {row : Row UInt8 width} :
    write width text = .ok row ↔
      textLength text ≤ width - 1 ∧ row = Row.ofList width 0 (textBytes text) := by
  unfold write
  split
  next long => exact iff_of_false nofun fun fits => Nat.not_le.mpr long fits.1
  next short =>
    rw [Except.ok.injEq, and_iff_right (Nat.le_of_not_lt short)]
    exact eq_comm

/-- What is written is read up to its first zero character. -/
theorem read_write {width : Nat} {text : String} {row : Row UInt8 width}
    (written : write width text = .ok row) : read row.toList = .ok (beforeZero text) := by
  obtain ⟨short, rfl⟩ := write_eq_ok_iff.mp written
  have fits : (textBytes text).length ≤ width := Nat.le_trans short (Nat.sub_le ..)
  rw [Row.toList_ofList 0 fits, read, decode_content_padded]
  rfl

/-! ## Texts that are cut -/

/-- The bytes of a field that a text is put into, of which the last is zero. -/
theorem toList_truncated (size : Nat) (text : String) :
    (truncated (size + 1) text).toList =
      (textBytes text).take size ++ List.replicate (size + 1 - min size (textLength text)) 0 := by
  have fits : ((textBytes text).take size).length ≤ size + 1 :=
    Nat.le_succ_of_le (List.length_take_le ..)
  rw [truncated, Nat.add_sub_cancel, Row.toList_ofList 0 fits, List.length_take]
  rfl

theorem content_truncated (size : Nat) {text : String} (noZero : '\x00' ∉ text.toList) :
    content (truncated (size + 1) text).toList = (textBytes text).take size := by
  rw [toList_truncated, content_append_zeros, content_of_notMem]
  exact fun member => zero_notMem_textBytes noZero (List.mem_of_mem_take member)

/-- A text that leaves room for a zero byte is read back. -/
theorem read_truncated_of_le {size : Nat} {text : String} (noZero : '\x00' ∉ text.toList)
    (fits : textLength text ≤ size) : read (truncated (size + 1) text).toList = .ok text := by
  rw [read, content_truncated size noZero, List.take_of_length_le fits, textBytes,
    Utf8.decode_encode]
  exact congrArg Except.ok String.ofList_toList

/-- Of a text that is too long the characters that fit are read, if they fill the field up to
its last byte; otherwise the next of them is cut, and nothing is read. -/
theorem read_truncated_of_lt {size : Nat} {text : String} (noZero : '\x00' ∉ text.toList)
    (longer : size < textLength text) :
    ∃ shown next rest, text.toList = shown ++ next :: rest ∧
      (Utf8.encode shown).length ≤ size ∧ size < (Utf8.encode (shown ++ [next])).length ∧
      read (truncated (size + 1) text).toList =
        if (Utf8.encode shown).length = size then .ok (String.ofList shown)
        else .error (.utf8 ⟨(Utf8.encode shown).length, none⟩
          s!"converting c_char array: {signedNumbers ((textBytes text).take size ++ [0])}") := by
  obtain ⟨shown, next, rest, whole, fits, full, decoded⟩ := Utf8.decode_take_encode longer
  refine ⟨shown, next, rest, whole, fits, full, ?_⟩
  rw [read, content_truncated size noZero, textBytes, decoded]
  by_cases ends : (Utf8.encode shown).length = size
  · rw [if_pos ends, if_pos ends]
  · rw [if_neg ends, if_neg ends, toList_truncated, Nat.min_eq_left (Nat.le_of_lt longer),
      Nat.add_sub_cancel_left]
    rfl

end TickWire.Terminated
