import TickWire.Text.Decimal
import TickWire.Text.Padded

/-!
# Fixed-point prices

A price is a 64-bit integer that counts billionths.  The greatest integer stands for
an undefined price and is never shown as a number.
-/

namespace TickWire

/-- A price in billionths. -/
structure FixedPrice where
  units : Int64
  deriving DecidableEq

namespace FixedPrice

/-- The number of units in one whole. -/
def scale : Nat := 1000000000

/-- The sentinel of an undefined price. -/
def undefined : FixedPrice := ⟨9223372036854775807⟩

def isUndefined (price : FixedPrice) : Bool := decide (price = undefined)

/-- The price as the nearest float of the count, divided by the scale. -/
def toFloat? (price : FixedPrice) : Option Float :=
  if price.isUndefined then none else some (price.units.toFloat / 1000000000.0)

/-- The number of decimal places shown for a precision. -/
def places : (precision? : Option Nat) → Nat
  | none => 9
  | some precision => min precision 9

/-- The digits of a price without its sign: the whole part, and the first places of
the nine of the fraction, cut and not rounded. -/
def magnitudeText (precision? : Option Nat) (magnitude : Nat) : List Char :=
  let shown := places precision?
  let whole := Decimal.natural (magnitude / scale)
  if shown = 0 then whole
  else whole ++ '.' :: (Decimal.fixed 9 (magnitude % scale)).take shown

/-- A price laid out by a format.  An undefined price ignores the format. -/
def format (layout : Format) (price : FixedPrice) : String :=
  if price.isUndefined then "UNDEF_PRICE"
  else
    let units := price.units.toInt
    String.ofList <| Padded.number layout (decide (units < 0))
      (magnitudeText layout.precision? units.natAbs)

/-- A price with all nine places. -/
def text (price : FixedPrice) : String := price.format {}

end FixedPrice

end TickWire
