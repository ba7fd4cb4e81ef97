import Presence.Text.Hex
import Presence.Text.Shapeless

/-!
# Quoted text

Text between double quotes in which every character can be seen. Quotes, backslashes and the usual
control characters have short escapes; any other character without a visible shape is written as
its code point.
-/

namespace Presence.Text

/-- The escape that shows a code point. -/
def codePointEscape (char : Char) : List Char :=
  ['\\', 'u', '{'] ++ Hex.numeral char.toNat ++ ['}']

/-- How a character is written between quotes. -/
def quotedChar (char : Char) : List Char :=
  if char = Char.ofNat 0 then ['\\', '0']
  else if char = '\t' then ['\\', 't']
  else if char = '\r' then ['\\', 'r']
  else if char = '\n' then ['\\', 'n']
  else if char = '\\' || char = '"' then ['\\', char]
  else if char.toNat < 0x20 || char.toNat = 0x7F || isShapeless char then codePointEscape char
  else [char]

/-- The text between quotes. -/
def quoted (text : String) : String :=
  String.ofList (['"'] ++ text.toList.flatMap quotedChar ++ ['"'])

end Presence.Text
