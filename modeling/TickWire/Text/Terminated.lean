import TickWire.Error
import TickWire.Record.Field

/-!
# Text in fields of a fixed size

Text in a record ends at the first zero byte, or with its field.  Reading refuses bytes
that are no UTF-8; writing refuses text that leaves no room for a zero byte, or cuts it.
-/

namespace TickWire.Terminated

/-- The bytes before the first zero byte. -/
def content (bytes : Bytes) : Bytes := bytes.takeWhile (· ≠ 0)

/-- Bytes as signed numbers, for diagnostic output. -/
def signedNumbers (bytes : Bytes) : String :=
  bracketed (bytes.map fun byte => toString byte.toInt8.toInt)

/-- The text of a field. -/
def read (bytes : Bytes) : Except Error String :=
  match Utf8.decode (content bytes) with
  | .ok chars => .ok (String.ofList chars)
  | .error fault =>
      .error (.utf8 fault s!"converting c_char array: {signedNumbers bytes}")

/-- A field of `size` bytes with a text and at least one zero byte after it. -/
def write (size : Nat) (text : String) : Except Error (Row UInt8 size) :=
  if size - 1 < textLength text then
    .error (.encode (.recordText (size - 1) (textLength text)))
  else .ok (Row.ofList size 0 (textBytes text))

/-- A field of `size` bytes with as many bytes of a text as leave room for a zero
byte. -/
def truncated (size : Nat) (text : String) : Row UInt8 size :=
  Row.ofList size 0 ((textBytes text).take (size - 1))

end TickWire.Terminated
