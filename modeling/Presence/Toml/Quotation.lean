import Presence.Text.Hex
import Presence.Text.Scan

/-!
# Quoted text

Text stands between quotes on one line, or between threefold quotes as a block of lines. Double
quotes allow escapes, single quotes take every character as it is. A block may hold one or two of
its own quotes in a row, and does not count a line break right behind the opening quotes.
-/

namespace Presence.Toml

open Scan

/-- Whether a character may stand in a line: tabs and whatever is no control character. -/
def isPlain (char : Char) : Bool :=
  char = '\t' || (0x20 ≤ char.toNat && char.toNat ≠ 0x7F)

/-- Whether a character is a space or a tab. -/
def isSpace (char : Char) : Bool := char = ' ' || char = '\t'

/-- Reads a line break, which is a line feed with or without a carriage return in front of it, and
gives the line feed. -/
def lineBreak : Scan (List Char) := optional (exactly '\r') *> List.singleton <$> exactly '\n'

/-- Reads as many hexadecimal digits as given, which number a character. -/
def numbered (count : Nat) : Scan Char := do
  let digits ← exactlyMany (fun char => (Hex.value? char).isSome) count
  let number := (Hex.number? digits).getD 0
  if number.isValidChar then return Char.ofNat number else failure

/-- Reads an escape, a backslash with what it applies to. -/
def escape : Scan Char := do
  let _ ← exactly '\\'
  match ← one fun _ => true with
  | 'b' => return Char.ofNat 8
  | 't' => return '\t'
  | 'n' => return '\n'
  | 'f' => return Char.ofNat 12
  | 'r' => return '\r'
  | '"' => return '"'
  | '\\' => return '\\'
  | 'u' => numbered 4
  | 'U' => numbered 8
  | _ => failure

/-- Reads a piece of text between double quotes: characters that stand for themselves, or an
escape. -/
def escapedPiece : Scan (List Char) :=
  stretch (fun char => isPlain char && char ≠ '"' && char ≠ '\\') <|>
    List.singleton <$> escape

/-- Reads a piece of text between single quotes, where all characters stand for themselves. -/
def literalPiece : Scan (List Char) := stretch fun char => isPlain char && char ≠ '\''

/-- Reads text on one line between quotes. -/
def quotedLine (quote : Char) (piece : Scan (List Char)) : Scan (List Char) :=
  List.flatten <$> (exactly quote *> many piece <* exactly quote)

/-- Reads one or two quotes that are part of a block. -/
def innerQuotes (quote : Char) : Scan (List Char) := do
  let quotes ← span (· = quote)
  if quotes.length = 1 ∨ quotes.length = 2 then return quotes else failure

/-- Reads the three quotes that close a block, with up to two in front of them that are part of
it. -/
def closingQuotes (quote : Char) : Scan (List Char) := do
  let quotes ← span (· = quote)
  if 3 ≤ quotes.length ∧ quotes.length ≤ 5 then return quotes.drop 3 else failure

/-- Reads a backslash at the end of a line with all blanks and line breaks that follow; they stand
for nothing. -/
def continuation : Scan (List Char) := do
  let _ ← exactly '\\'
  let _ ← span isSpace
  let _ ← lineBreak
  let _ ← many (stretch isSpace <|> lineBreak)
  return []

/-- Reads a block of lines between threefold quotes. -/
def quotedBlock (quote : Char) (piece : Scan (List Char)) : Scan (List Char) := do
  word [quote, quote, quote]
  let _ ← optional lineBreak
  let pieces ← many (piece <|> lineBreak <|> innerQuotes quote)
  let last ← closingQuotes quote
  return pieces.flatten ++ last

/-- Reads quoted text that is a key: it stays on one line. -/
def quotedKey : Scan String :=
  String.ofList <$> (quotedLine '"' escapedPiece <|> quotedLine '\'' literalPiece)

/-- Reads quoted text that is a value. -/
def quotedValue : Scan String :=
  String.ofList <$>
    (quotedBlock '"' (continuation <|> escapedPiece) <|> quotedBlock '\'' literalPiece <|>
      quotedLine '"' escapedPiece <|> quotedLine '\'' literalPiece)

end Presence.Toml
