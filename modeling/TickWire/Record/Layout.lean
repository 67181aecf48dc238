import TickWire.Record.Field

/-!
# Layouts

A layout is a list of fields in the order in which they are stored, without gaps.
The values of a layout are a tuple of one value for each field.  The codec, access by
name and the carrying of values from one layout to another are written once here, for
all layouts.
-/

namespace TickWire

/-- The fields of a record after its header. -/
abbrev Layout := List Field

namespace Layout

/-- One value for each field. -/
@[reducible] def Values : Layout → Type
  | [] => Unit
  | field :: rest => field.type.Value × Values rest

/-- The size of all fields in bytes. -/
def size : Layout → Nat
  | [] => 0
  | field :: rest => field.type.size + size rest

end Layout

namespace Values

open Layout (Values)

instance instDecidableEq : (layout : Layout) → DecidableEq (Values layout)
  | [] => inferInstanceAs (DecidableEq Unit)
  | field :: rest =>
      have : DecidableEq (Values rest) := instDecidableEq rest
      inferInstanceAs (DecidableEq (field.type.Value × Values rest))

/-- The bytes of all values in order. -/
def toBytes : (layout : Layout) → Values layout → Bytes
  | [], () => []
  | field :: rest, (value, values) => field.type.toBytes value ++ toBytes rest values

/-- The values that bytes begin with. -/
def ofBytes : (layout : Layout) → Bytes → Values layout
  | [], _ => ()
  | field :: rest, bytes =>
      (field.type.ofBytes bytes, ofBytes rest (bytes.drop field.type.size))

/-- What every field holds unless it is set. -/
def initial : (layout : Layout) → Values layout
  | [] => ()
  | field :: rest => (field.initial, initial rest)

/-- Every field with its value, in order. -/
def entries : (layout : Layout) → Values layout → List (Field × FieldValue)
  | [], () => []
  | field :: rest, (value, values) =>
      (field, ⟨field.type, value⟩) :: entries rest values

/-- The value of the first field of a name. -/
def get? (name : String) : (layout : Layout) → Values layout → Option FieldValue
  | [], () => none
  | field :: rest, (value, values) =>
      if field.name = name then some ⟨field.type, value⟩ else get? name rest values

/-- Changes the value of every field of a name. -/
def modify (name : String) (change : (type : FieldType) → type.Value → type.Value) :
    (layout : Layout) → Values layout → Values layout
  | [], () => ()
  | field :: rest, (value, values) =>
      (if field.name = name then change field.type value else value,
        modify name change rest values)

/-- The values of a layout, each taken from a field of the same name of another layout
where there is one that fits, and initial otherwise. -/
def carried (source : String → Option FieldValue) : (layout : Layout) → Values layout
  | [] => ()
  | field :: rest =>
      (((source field.name).bind (·.fit? field.type)).getD field.initial,
        carried source rest)

/-- The integer in the field of a name. -/
def int? (name : String) (layout : Layout) (values : Values layout) : Option Int :=
  (get? name layout values).bind FieldValue.int?

/-- The bytes of the text in the field of a name. -/
def text? (name : String) (layout : Layout) (values : Values layout) : Option Bytes :=
  (get? name layout values).bind FieldValue.text?

/-- Puts an integer into the field of a name, modulo the width of the field. -/
def setInt (name : String) (number : Int) (layout : Layout) :
    Values layout → Values layout :=
  modify name (fun
    | .word width _, _ => BitVec.ofInt (8 * width) number
    | _, value => value) layout

/-- Puts bytes into the text field of a name, filled with zero bytes. -/
def setText (name : String) (bytes : Bytes) (layout : Layout) :
    Values layout → Values layout :=
  modify name (fun
    | .text size, _ => Row.ofList size 0 bytes
    | _, value => value) layout

/-- Puts price levels into the field of a name. -/
def setLevels (name : String) (rows : List PriceLevel) (layout : Layout) :
    Values layout → Values layout :=
  modify name (fun
    | .levels count, _ => Row.ofList count PriceLevel.empty rows
    | _, value => value) layout

end Values

end TickWire
