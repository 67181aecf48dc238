import TickWire.Text.CharacterClass

/-!
# Quoted text

Text inside diagnostic output.  A quoted string stands between double quotes; the
quote, the backslash, the common controls and every character that would not show
are written as escapes.  `Quoted.escape` is the form without the surrounding quotes,
which escapes the single quote as well and lets a character that extends a grapheme
stand unless it comes first.
-/

namespace TickWire.Quoted

/-- The digits of a number in lowercase hexadecimal, without leading zeros. -/
def hexDigits (number : Nat) : List Char := Nat.toDigits 16 number

/-- The escape that names a character by its code. -/
def codeEscape (char : Char) : List Char :=
  ['\\', 'u', '\x7b'] ++ hexDigits char.toNat ++ ['\x7d']

/-- The characters that a quotation must not contain as themselves. -/
structure Style where
  singleQuote : Bool
  doubleQuote : Bool
  extending : Bool

/-- One character as it is written under a style. -/
def escapeChar (style : Style) (char : Char) : List Char :=
  if char = '\x00' then ['\\', '0']
  else if char = '\t' then ['\\', 't']
  else if char = '\r' then ['\\', 'r']
  else if char = '\n' then ['\\', 'n']
  else if char = '\\' then ['\\', '\\']
  else if char = '"' ∧ style.doubleQuote then ['\\', '"']
  else if char = '\'' ∧ style.singleQuote then ['\\', '\'']
  else if style.extending ∧ CharacterClass.isExtending char then codeEscape char
  else if CharacterClass.isVisible char then [char]
  else codeEscape char

/-- The style inside double quotes. -/
def quotation : Style := ⟨false, true, true⟩

/-- The text between double quotes, escaped. -/
def quote (text : String) : String :=
  String.ofList (['"'] ++ text.toList.flatMap (escapeChar quotation) ++ ['"'])

/-- The text with both kinds of quotes escaped and none around it. -/
def escape (text : String) : String :=
  match text.toList with
  | [] => ""
  | first :: rest => String.ofList
      (escapeChar ⟨true, true, true⟩ first
        ++ rest.flatMap (escapeChar ⟨true, true, false⟩))

end TickWire.Quoted
