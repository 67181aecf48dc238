/-!
# Padding

Text brought to a least width.  A `Format` says how: the fill and the side it goes
to, and for numbers whether a plus sign is shown and whether zeros stand between the
sign and the digits instead of a fill outside.
-/

namespace TickWire

/-- The side of the field on which the text stands. -/
inductive Alignment
  | left
  | center
  | right
  deriving DecidableEq, Repr

/-- How a value is laid out. -/
structure Format where
  fill : Char := ' '
  align? : Option Alignment := none
  plus : Bool := false
  zero : Bool := false
  width : Nat := 0
  precision? : Option Nat := none
  deriving DecidableEq, Repr

namespace Padded

/-- Puts `missing` fill characters around the text; in the center, an odd one goes to
the right. -/
def around (fill : Char) (align : Alignment) (missing : Nat) (text : List Char) :
    List Char :=
  match align with
  | .left => text ++ List.replicate missing fill
  | .right => List.replicate missing fill ++ text
  | .center => List.replicate (missing / 2) fill ++ text
      ++ List.replicate (missing - missing / 2) fill

/-- A text, cut to the precision and brought to the width; it stands on the left
unless the format says otherwise. -/
def text (format : Format) (chars : List Char) : List Char :=
  let shown := match format.precision? with
    | some limit => chars.take limit
    | none => chars
  around format.fill (format.align?.getD .left) (format.width - shown.length) shown

/-- The sign that is shown before the digits of a number. -/
def sign (format : Format) (negative : Bool) : List Char :=
  if negative then ['-'] else if format.plus then ['+'] else []

/-- The digits of a number with their sign, brought to the width; they stand on the
right unless the format says otherwise. -/
def number (format : Format) (negative : Bool) (digits : List Char) : List Char :=
  let shownSign := sign format negative
  let missing := format.width - (shownSign.length + digits.length)
  if format.zero then shownSign ++ List.replicate missing '0' ++ digits
  else around format.fill (format.align?.getD .right) missing (shownSign ++ digits)

end Padded

end TickWire
