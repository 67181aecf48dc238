import TickWire.Live.Error
import TickWire.Schema
import TickWire.Text.Decimal
import TickWire.Text.Segment

/-!
# Subscriptions

What data a session asks for, and the line that says so.  Symbols that would change the
shape of the line are refused.
-/

namespace TickWire

/-- The greatest length of the line unless it is set. -/
def defaultSubscriptionLimit : Nat := 64 * 1024

/-- Whether a character of a symbol would change the shape of the line. -/
def isReserved (char : Char) : Bool :=
  char == ',' || char == '|' || char == '\n' || char == '\r'

/-- Refuses symbols that cannot stand in the line; `index` counts the symbols before. -/
def checkSymbols : (index : Nat) → List String → Except LiveError Unit
  | _, [] => .ok ()
  | index, symbol :: others =>
    if symbol.toList.isEmpty then .error (.configuration (.emptySymbol index))
    else if symbol.toList.any isReserved then
      .error (.configuration (.reservedCharacter symbol))
    else checkSymbols (index + 1) others

/-- The symbols between commas. -/
def joinSymbols (symbols : List String) : Except LiveError String := do
  if symbols.isEmpty then throw (.configuration .noSymbols)
  checkSymbols 0 symbols
  return String.ofList (Segment.join ',' (symbols.map String.toList))

/-- From when on data is replayed. -/
inductive ReplayStart
  /-- Nanoseconds since the first instant of 1970; zero stands for no replay. -/
  | nanoseconds (time : UInt64)
  /-- A time in the words of the gateway; an empty text stands for no replay. -/
  | text (time : String)
  deriving DecidableEq, Repr

namespace ReplayStart

/-- Whether no replay is asked for. -/
def isUnset : ReplayStart → Bool
  | nanoseconds time => time == 0
  | text time => time.toList.isEmpty

/-- The time as it is sent. -/
def spelling : ReplayStart → String
  | nanoseconds time => toString time.toNat
  | text time => time

/-- A time that may lie before the first instant of 1970, which counts as none, or
beyond the greatest number. -/
def ofInstant (time : Int) : ReplayStart :=
  nanoseconds (UInt64.ofNat (min time.toNat 18446744073709551615))

end ReplayStart

/-- A request for data. -/
structure Subscription where
  symbols : List String
  schema : Schema
  /-- How the symbols name instruments. -/
  symbology : Symbology
  start? : Option ReplayStart := none
  deriving DecidableEq, Repr

namespace Subscription

/-- The end of the line that says from when on data is replayed. -/
def startText (subscription : Subscription) : String :=
  match subscription.start? with
  | none => ""
  | some start => if start.isUnset then "" else "|start=" ++ start.spelling

/-- The line that asks for the data, of at most `limit` bytes. -/
def encode (limit : Nat) (subscription : Subscription) : Except LiveError String := do
  let symbols ← joinSymbols subscription.symbols
  let line := "schema=" ++ Spelled.spelling subscription.schema
    ++ "|stype_in=" ++ Spelled.spelling subscription.symbology
    ++ "|symbols=" ++ symbols ++ subscription.startText ++ "\n"
  if limit < textLength line then
    throw (.configuration (.subscriptionTooLong (textLength line) limit))
  return line

end Subscription

end TickWire
