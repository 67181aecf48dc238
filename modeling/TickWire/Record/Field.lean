import TickWire.Bytes.LittleEndian

/-!
# Fields of records

A record is a header and a row of fields.  A field has a type that fixes its size on
the wire: an integer of some width, text in a fixed number of bytes, filler bytes, or
a row of price levels.  Each type has a codec, total in both directions: reading takes
what bytes there are, and whether there are enough is decided before.
-/

namespace TickWire

/-- A row of a known number of elements. -/
structure Row (α : Type) (size : Nat) where
  toList : List α
  length_toList : toList.length = size
  deriving DecidableEq

namespace Row

variable {α : Type}

theorem ext_toList {size : Nat} {left right : Row α size}
    (same : left.toList = right.toList) : left = right := by
  cases left
  cases right
  cases same
  rfl

/-- The first elements of a list, with padding where it is too short. -/
def ofList (size : Nat) (padding : α) (elements : List α) : Row α size :=
  ⟨(elements ++ List.replicate size padding).take size, by simp⟩

theorem ofList_toList {size : Nat} (padding : α) (row : Row α size) :
    ofList size padding row.toList = row := by
  apply ext_toList
  simp [ofList, row.length_toList]

/-- A list that is not too long is kept whole. -/
theorem toList_ofList {size : Nat} (padding : α) {elements : List α}
    (fits : elements.length ≤ size) : (ofList size padding elements).toList =
      elements ++ List.replicate (size - elements.length) padding := by
  simp [ofList, List.take_append, List.take_of_length_le fits]

/-- A row of copies of one element. -/
def replicate (size : Nat) (element : α) : Row α size :=
  ⟨List.replicate size element, List.length_replicate⟩

end Row

/-- One level of the order book: the best bid and ask, their sizes and the number of
orders behind them. -/
structure PriceLevel where
  bidPrice : BitVec 64
  askPrice : BitVec 64
  bidSize : BitVec 32
  askSize : BitVec 32
  bidCount : BitVec 32
  askCount : BitVec 32
  deriving DecidableEq

/-- An integer of `width` bytes as it is stored. -/
def wordBytes (width : Nat) (word : BitVec (8 * width)) : Bytes :=
  LittleEndian.encode width word.toNat

/-- The integer of `width` bytes that bytes begin with. -/
def wordOfBytes (width : Nat) (bytes : Bytes) : BitVec (8 * width) :=
  BitVec.ofNat (8 * width) (LittleEndian.decode (bytes.take width))

@[simp] theorem length_wordBytes (width : Nat) (word : BitVec (8 * width)) :
    (wordBytes width word).length = width := by
  simp [wordBytes]

theorem wordOfBytes_wordBytes_append (width : Nat) (word : BitVec (8 * width))
    (rest : Bytes) : wordOfBytes width (wordBytes width word ++ rest) = word := by
  have bound : word.toNat < LittleEndian.capacity width := by
    have small := word.isLt
    rw [Nat.pow_mul] at small
    exact small
  rw [wordOfBytes, List.take_append_of_le_length (by simp),
    List.take_of_length_le (by simp), wordBytes, LittleEndian.decode_encode,
    Nat.mod_eq_of_lt bound, BitVec.ofNat_toNat, BitVec.setWidth_eq]

theorem wordBytes_wordOfBytes (width : Nat) {bytes : Bytes}
    (enough : width ≤ bytes.length) :
    wordBytes width (wordOfBytes width bytes) = bytes.take width := by
  have size : (bytes.take width).length = width := by simp [enough]
  have bound : LittleEndian.decode (bytes.take width) < 2 ^ (8 * width) := by
    have small := LittleEndian.decode_lt (bytes.take width)
    rw [size] at small
    rw [Nat.pow_mul]
    exact small
  have whole := LittleEndian.encode_decode (bytes.take width)
  rw [size] at whole
  rw [wordBytes, wordOfBytes, BitVec.toNat_ofNat, Nat.mod_eq_of_lt bound, whole]

namespace PriceLevel

/-- The size of a price level in bytes. -/
def size : Nat := 32

/-- A level without orders. -/
def empty : PriceLevel :=
  ⟨9223372036854775807#64, 9223372036854775807#64, 0#32, 0#32, 0#32, 0#32⟩

def toBytes (level : PriceLevel) : Bytes :=
  wordBytes 8 level.bidPrice ++ wordBytes 8 level.askPrice
    ++ wordBytes 4 level.bidSize ++ wordBytes 4 level.askSize
    ++ wordBytes 4 level.bidCount ++ wordBytes 4 level.askCount

def ofBytes (bytes : Bytes) : PriceLevel where
  bidPrice := wordOfBytes 8 bytes
  askPrice := wordOfBytes 8 (bytes.drop 8)
  bidSize := wordOfBytes 4 (bytes.drop 16)
  askSize := wordOfBytes 4 (bytes.drop 20)
  bidCount := wordOfBytes 4 (bytes.drop 24)
  askCount := wordOfBytes 4 (bytes.drop 28)

/-- The levels that bytes begin with. -/
def listOfBytes : (count : Nat) → Bytes → List PriceLevel
  | 0, _ => []
  | count + 1, bytes => ofBytes bytes :: listOfBytes count (bytes.drop size)

@[simp] theorem length_listOfBytes (count : Nat) (bytes : Bytes) :
    (listOfBytes count bytes).length = count := by
  induction count generalizing bytes with
  | zero => rfl
  | succ count ih => simp [listOfBytes, ih]

end PriceLevel

/-- The type of a field. -/
inductive FieldType
  /-- An integer of `width` bytes. -/
  | word (width : Nat) (signed : Bool)
  /-- Text that ends at the first zero byte, or with the field. -/
  | text (size : Nat)
  /-- Bytes without a meaning. -/
  | filler (size : Nat)
  /-- Levels of the order book, best first. -/
  | levels (count : Nat)
  deriving DecidableEq

namespace FieldType

/-- The values of a field of this type. -/
@[reducible] def Value : FieldType → Type
  | word width _ => BitVec (8 * width)
  | text size => Row UInt8 size
  | filler size => Row UInt8 size
  | levels count => Row PriceLevel count

instance instDecidableEqValue : (type : FieldType) → DecidableEq type.Value
  | word width _ => inferInstanceAs (DecidableEq (BitVec (8 * width)))
  | text size => inferInstanceAs (DecidableEq (Row UInt8 size))
  | filler size => inferInstanceAs (DecidableEq (Row UInt8 size))
  | levels count => inferInstanceAs (DecidableEq (Row PriceLevel count))

/-- The size of a field in bytes. -/
def size : FieldType → Nat
  | word width _ => width
  | text size => size
  | filler size => size
  | levels count => PriceLevel.size * count

/-- The bytes of a value. -/
def toBytes : (type : FieldType) → type.Value → Bytes
  | word width _, value => wordBytes width value
  | text _, value => value.toList
  | filler _, value => value.toList
  | levels _, value => value.toList.flatMap PriceLevel.toBytes

/-- The value that bytes begin with. -/
def ofBytes : (type : FieldType) → Bytes → type.Value
  | word width _, bytes => wordOfBytes width bytes
  | text size, bytes => Row.ofList size 0 bytes
  | filler size, bytes => Row.ofList size 0 bytes
  | levels count, bytes =>
      ⟨PriceLevel.listOfBytes count bytes, PriceLevel.length_listOfBytes count bytes⟩

/-- Whether a field of this type carries information. -/
def isPublic : FieldType → Bool
  | filler _ => false
  | _ => true

end FieldType

/-- A value together with its type. -/
structure FieldValue where
  type : FieldType
  value : type.Value

namespace FieldValue

/-- The integer that a field holds. -/
def int? : FieldValue → Option Int
  | ⟨.word _ true, value⟩ => some value.toInt
  | ⟨.word _ false, value⟩ => some value.toNat
  | _ => none

/-- The bytes of a text field. -/
def text? : FieldValue → Option Bytes
  | ⟨.text _, value⟩ => some value.toList
  | _ => none

/-- The value as one of another type: the same type keeps it, and text moves to a
field of another size, cut or filled with zero bytes at its end. -/
def fit? (held : FieldValue) (type : FieldType) : Option type.Value :=
  if same : held.type = type then some (same ▸ held.value)
  else match held, type with
    | ⟨.text _, value⟩, .text size => some (Row.ofList size 0 value.toList)
    | _, _ => none

end FieldValue

/-- A field of a layout: its name, its type and what it holds unless it is set. -/
structure Field where
  name : String
  type : FieldType
  initial : type.Value

namespace Field

/-- An integer field. -/
def word (width : Nat) (signed : Bool) (name : String) (initial : Int) : Field :=
  ⟨name, .word width signed, BitVec.ofInt (8 * width) initial⟩

def u8 (name : String) (initial : Int := 0) : Field := word 1 false name initial
def u16 (name : String) (initial : Int := 0) : Field := word 2 false name initial
def u32 (name : String) (initial : Int := 0) : Field := word 4 false name initial
def u64 (name : String) (initial : Int := 0) : Field := word 8 false name initial
def i8 (name : String) (initial : Int := 0) : Field := word 1 true name initial
def i16 (name : String) (initial : Int := 0) : Field := word 2 true name initial
def i32 (name : String) (initial : Int := 0) : Field := word 4 true name initial
def i64 (name : String) (initial : Int := 0) : Field := word 8 true name initial

/-- An empty text field. -/
def text (name : String) (size : Nat) : Field := ⟨name, .text size, Row.replicate size 0⟩

/-- A field of zero bytes without a meaning. -/
def filler (name : String) (size : Nat) : Field :=
  ⟨name, .filler size, Row.replicate size 0⟩

/-- A field of empty price levels. -/
def levels (name : String) (count : Nat) : Field :=
  ⟨name, .levels count, Row.replicate count PriceLevel.empty⟩

end Field

end TickWire
