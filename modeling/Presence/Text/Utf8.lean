/-!
# UTF-8

Text from the wire is UTF-8, but nobody promises that it is well formed. The decoder reads one byte
at a time and never fails: wherever the bytes stop being the beginning of a character, what was
read of that character is given up as a whole, and decoding starts again at the offending byte.

`decode` puts a replacement character in place of every given-up piece, `decodeStrict?` refuses
text that has one.
-/

namespace Presence.Utf8

/-- How far the decoder is into a character. -/
inductive Progress where
  /-- Between two characters. -/
  | between
  /-- Within a character: the bits read so far, the number of bytes to come, and the least and
  greatest value that the next of them may have. -/
  | within (bits remaining least greatest : Nat)
deriving DecidableEq

/-- One piece of decoded text: a character, or `none` for bytes that form no character. -/
abbrev Piece := Option Char

/-- Reads the first byte of a character. -/
def start (byte : Nat) : List Piece × Progress :=
  if byte < 0x80 then ([some (Char.ofNat byte)], .between)
  else if byte < 0xC2 then ([none], .between)
  else if byte < 0xE0 then ([], .within (byte - 0xC0) 1 0x80 0xBF)
  else if byte = 0xE0 then ([], .within 0 2 0xA0 0xBF)
  else if byte = 0xED then ([], .within 0xD 2 0x80 0x9F)
  else if byte < 0xF0 then ([], .within (byte - 0xE0) 2 0x80 0xBF)
  else if byte = 0xF0 then ([], .within 0 3 0x90 0xBF)
  else if byte < 0xF4 then ([], .within (byte - 0xF0) 3 0x80 0xBF)
  else if byte = 0xF4 then ([], .within 4 3 0x80 0x8F)
  else ([none], .between)

/-- Reads the next byte. -/
def step (progress : Progress) (byte : Nat) : List Piece × Progress :=
  match progress with
  | .between => start byte
  | .within bits remaining least greatest =>
      if least ≤ byte ∧ byte ≤ greatest then
        let extended := 64 * bits + (byte - 0x80)
        if remaining = 1 then ([some (Char.ofNat extended)], .between)
        else ([], .within extended (remaining - 1) 0x80 0xBF)
      else
        let (pieces, next) := start byte
        (none :: pieces, next)

/-- What is left when the bytes end. -/
def finish : Progress → List Piece
  | .between => []
  | .within .. => [none]

/-- The pieces of text that the bytes stand for. -/
def pieces (progress : Progress) : List UInt8 → List Piece
  | [] => finish progress
  | byte :: rest =>
      let (read, next) := step progress byte.toNat
      read ++ pieces next rest

/-- The character that stands for bytes that form none. -/
def replacement : Char := Char.ofNat 0xFFFD

/-- The text that the bytes stand for, with a replacement for whatever is no text. -/
def decode (bytes : List UInt8) : String :=
  String.ofList ((pieces .between bytes).map fun piece => piece.getD replacement)

/-- The text that the bytes stand for, if they are well formed. -/
def decodeStrict? (bytes : List UInt8) : Option String :=
  ((pieces .between bytes).mapM id).map String.ofList

/-- The bytes of a text. -/
def encode (text : String) : List UInt8 := text.toList.flatMap String.utf8EncodeChar

/-- The text in front of the first zero byte. -/
def decodeUntilZero (bytes : List UInt8) : String := decode (bytes.takeWhile (· ≠ 0))

end Presence.Utf8
