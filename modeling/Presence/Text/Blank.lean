/-!
# Blanks and separators

Cutting text at separators and stripping the blanks around the pieces. Blanks are the characters
with the Unicode property White_Space.
-/

namespace Presence.Text

/-- Whether a character is white space. -/
def isBlank (char : Char) : Bool :=
  let point := char.toNat
  (0x9 ≤ point && point ≤ 0xD) || point = 0x20 || point = 0x85 || point = 0xA0 ||
    point = 0x1680 || (0x2000 ≤ point && point ≤ 0x200A) || point = 0x2028 || point = 0x2029 ||
    point = 0x202F || point = 0x205F || point = 0x3000

/-- The text without the blanks in front of it. -/
def trimStart (text : List Char) : List Char := text.dropWhile isBlank

/-- The text without the blanks behind it. -/
def trimEnd (text : List Char) : List Char := (text.reverse.dropWhile isBlank).reverse

/-- The text without the blanks around it. -/
def trim (text : List Char) : List Char := trimEnd (trimStart text)

/-- The pieces between the separators; a text without separators is one piece. -/
def pieces (separator : Char) : List Char → List (List Char)
  | [] => [[]]
  | char :: rest =>
      if char = separator then [] :: pieces separator rest
      else
        match pieces separator rest with
        | [] => [[char]]
        | piece :: others => (char :: piece) :: others

end Presence.Text
