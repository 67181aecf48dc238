import TickWire.Bytes.LittleEndian

/-!
# UTF-8

Characters to bytes and back.  `Utf8.decode` either reads a whole stretch of bytes
as characters or names the first fault: where it lies and how many bytes belong to
the sequence that breaks off there.  A fault without a length is a sequence that
ends with the input.  `Utf8.decodeLossy` reads past every fault, putting one
replacement character for each.
-/

namespace TickWire.Utf8

/-- The encoding of one character, one to four bytes. -/
def encodeChar (char : Char) : Bytes :=
  let code := char.toNat
  if code < 0x80 then [UInt8.ofNat code]
  else if code < 0x800 then
    [UInt8.ofNat (0xC0 + code / 64), UInt8.ofNat (0x80 + code % 64)]
  else if code < 0x10000 then
    [UInt8.ofNat (0xE0 + code / 4096), UInt8.ofNat (0x80 + code / 64 % 64),
      UInt8.ofNat (0x80 + code % 64)]
  else
    [UInt8.ofNat (0xF0 + code / 262144), UInt8.ofNat (0x80 + code / 4096 % 64),
      UInt8.ofNat (0x80 + code / 64 % 64), UInt8.ofNat (0x80 + code % 64)]

/-- The encoding of a list of characters. -/
def encode (chars : List Char) : Bytes := chars.flatMap encodeChar

@[simp] theorem encode_nil : encode [] = [] := rfl

@[simp] theorem encode_cons (char : Char) (rest : List Char) :
    encode (char :: rest) = encodeChar char ++ encode rest := by
  simp [encode]

@[simp] theorem encode_append (front back : List Char) :
    encode (front ++ back) = encode front ++ encode back := by
  simp [encode]

/-- The byte at which each character begins, of characters that begin at `start`. -/
def offsets : (start : Nat) → List Char → List Nat
  | _, [] => []
  | start, char :: rest => start :: offsets (start + (encodeChar char).length) rest

/-- The characters after so many bytes, unless these end inside a character or are more than
there are. -/
def dropBytes? : (count : Nat) → List Char → Option (List Char)
  | 0, chars => some chars
  | _ + 1, [] => none
  | count + 1, char :: rest =>
    if (encodeChar char).length ≤ count + 1 then
      dropBytes? (count + 1 - (encodeChar char).length) rest
    else none

/-- Where decoding fails: the number of bytes that read as characters before it, and
the number of bytes of the broken sequence, if more input could not mend it. -/
structure Fault where
  validUpTo : Nat
  length? : Option Nat
  deriving DecidableEq, Repr

/-- The text of a fault. -/
def Fault.message (fault : Fault) : String :=
  match fault.length? with
  | some length =>
      s!"invalid utf-8 sequence of {length} bytes from index {fault.validUpTo}"
  | none => s!"incomplete utf-8 byte sequence from index {fault.validUpTo}"

/-- What the first byte of a character announces: the number of bytes that follow it
and the least and greatest second byte that can. -/
structure Lead where
  following : Nat
  low : Nat
  high : Nat

/-- Reads the first byte of a character of more than one byte.  The bounds on the
second byte exclude overlong forms, surrogates and codes past the last character. -/
def lead? (first : Nat) : Option Lead :=
  if 0xC2 ≤ first ∧ first ≤ 0xDF then some ⟨1, 0x80, 0xBF⟩
  else if first = 0xE0 then some ⟨2, 0xA0, 0xBF⟩
  else if first = 0xED then some ⟨2, 0x80, 0x9F⟩
  else if 0xE1 ≤ first ∧ first ≤ 0xEF then some ⟨2, 0x80, 0xBF⟩
  else if first = 0xF0 then some ⟨3, 0x90, 0xBF⟩
  else if 0xF1 ≤ first ∧ first ≤ 0xF3 then some ⟨3, 0x80, 0xBF⟩
  else if first = 0xF4 then some ⟨3, 0x80, 0x8F⟩
  else none

/-- Whether a byte continues a character. -/
def isTail (byte : UInt8) : Bool := decide (0x80 ≤ byte.toNat ∧ byte.toNat ≤ 0xBF)

/-- The six low bits that a continuation byte carries. -/
def tailBits (byte : UInt8) : Nat := byte.toNat % 64

/-- How a stretch of bytes begins. -/
inductive Start
  /-- A character, and the bytes after it. -/
  | char (value : Char) (rest : Bytes)
  /-- A sequence of this many bytes that no character begins with, and the bytes after
  it. -/
  | broken (length : Nat) (rest : Bytes)
  /-- The beginning of a character that the input does not complete. -/
  | unfinished
  deriving DecidableEq, Repr

/-- Reads one character off bytes that begin with `first`. -/
def start (first : UInt8) (rest : Bytes) : Start :=
  if first.toNat < 0x80 then .char (Char.ofNat first.toNat) rest
  else match lead? first.toNat with
  | none => .broken 1 rest
  | some lead =>
    match rest with
    | [] => .unfinished
    | second :: rest =>
      if second.toNat < lead.low ∨ lead.high < second.toNat then
        .broken 1 (second :: rest)
      else if lead.following = 1 then
        .char (Char.ofNat (first.toNat % 32 * 64 + tailBits second)) rest
      else match rest with
      | [] => .unfinished
      | third :: rest =>
        if !isTail third then .broken 2 (third :: rest)
        else if lead.following = 2 then
          .char (Char.ofNat
            (first.toNat % 16 * 4096 + tailBits second * 64 + tailBits third)) rest
        else match rest with
        | [] => .unfinished
        | fourth :: rest =>
          if !isTail fourth then .broken 3 (fourth :: rest)
          else .char (Char.ofNat (first.toNat % 8 * 262144 + tailBits second * 4096
            + tailBits third * 64 + tailBits fourth)) rest

/-- Reads all characters, counting the bytes already read, with a bound on the number
of characters. -/
def decodeFrom : (bound position : Nat) → Bytes → Except Fault (List Char)
  | 0, position, _ => .error ⟨position, none⟩
  | _ + 1, _, [] => .ok []
  | bound + 1, position, first :: rest =>
      match start first rest with
      | .char value after =>
          (decodeFrom bound (position + (encodeChar value).length) after).map (value :: ·)
      | .broken length _ => .error ⟨position, some length⟩
      | .unfinished => .error ⟨position, none⟩

/-- Reads bytes as characters, or finds the first fault. -/
def decode (bytes : Bytes) : Except Fault (List Char) :=
  decodeFrom (bytes.length + 1) 0 bytes

/-- Reads characters past every fault, with a bound on their number. -/
def decodeLossyWithin : (bound : Nat) → Bytes → List Char
  | 0, _ => []
  | _ + 1, [] => []
  | bound + 1, first :: rest =>
      match start first rest with
      | .char value after => value :: decodeLossyWithin bound after
      | .broken _ after => '\uFFFD' :: decodeLossyWithin bound after
      | .unfinished => ['\uFFFD']

/-- Reads bytes as characters, with one replacement character for each maximal part
that is none. -/
def decodeLossy (bytes : Bytes) : List Char := decodeLossyWithin (bytes.length + 1) bytes

end TickWire.Utf8

namespace TickWire

/-- The UTF-8 bytes of a text. -/
def textBytes (text : String) : Bytes := Utf8.encode text.toList

/-- The length of a text in bytes. -/
def textLength (text : String) : Nat := (textBytes text).length

/-- The text that bytes spell, faults replaced. -/
def lossyText (bytes : Bytes) : String := String.ofList (Utf8.decodeLossy bytes)

end TickWire
