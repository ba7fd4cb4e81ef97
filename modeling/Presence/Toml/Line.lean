import Presence.Toml.Quotation
import Presence.Toml.Table

/-!
# Keys, values and lines

A document is read line by line. A line is blank, gives a value under a key, or is the header of a
table; a comment may stand at its end. Values in brackets may go over several lines.
-/

namespace Presence.Toml

open Scan

/-- How many brackets and braces may be open at once, and how many names a key may have. -/
def depthLimit : Nat := 79

/-- What a line says. -/
inductive Line where
  | blank
  /-- A value stands under a key. -/
  | entry (key : Key) (value : Node)
  /-- A table begins, which may share its header with others. -/
  | header (key : Key) (shared : Bool)
deriving Inhabited

/-- Reads spaces and tabs. -/
def spaces : Scan (List Char) := span isSpace

/-- Reads a comment up to the end of its line. -/
def comment : Scan (List Char) := exactly '#' *> span isPlain

/-- Reads blanks, line breaks and comments. -/
def padding : Scan Unit := do
  let _ ← many (stretch isSpace <|> optional comment *> lineBreak)

/-- Reads the end of a line, with a comment in front of it if there is one. -/
def lineEnd : Scan Unit :=
  spaces *> optional comment *> (ended <|> discard lineBreak)

/-- Whether a character may stand in a name without quotes. -/
def isBare (char : Char) : Bool := char.isAlphanum || char = '-' || char = '_'

/-- Reads a name, quoted or not. -/
def name : Scan String := quotedKey <|> String.ofList <$> stretch isBare

/-- The key whose names are given, if there are any and not too many. -/
def Key.ofNames? (names : List String) : Option Key :=
  if names.length ≤ depthLimit then
    names.getLast?.map fun name => { path := names.dropLast, name }
  else none

/-- Reads a key: names with points between them, and blanks around the names. -/
def key : Scan Key := do
  let names ← separated (spaces *> name <* spaces) (exactly '.')
  Key.ofNames? names

/-- Reads a truth value. -/
def truth : Scan Bool :=
  word ['t', 'r', 'u', 'e'] *> pure true <|> word ['f', 'a', 'l', 's', 'e'] *> pure false

/-- Reads a value that holds no other values. -/
def simpleValue : Scan Node :=
  Node.text <$> quotedValue <|> Node.moment <$> moment <|> Node.floating <$> floating <|>
    Node.integer <$> integer <|> Node.truth <$> truth

/-- Reads values in brackets; a comma may follow the last one. -/
def list (value : Scan Node) : Scan Node := do
  let _ ← exactly '['
  let items ← separated (padding *> value <* padding) (exactly ',')
  if !items.isEmpty then
    let _ ← optional (exactly ',')
  padding
  let _ ← exactly ']'
  return .list items

/-- Reads a key with its value. -/
def entry (value : Scan Node) : Scan (Key × Node) := do
  let key ← key
  let _ ← exactly '='
  let _ ← spaces
  let value ← value
  let _ ← spaces
  return (key, value)

/-- Reads a table in braces, which stays on one line. -/
def braces (value : Scan Node) : Scan Node := do
  let _ ← exactly '{'
  let values ← separated (entry value) (exactly ',')
  let _ ← spaces
  let _ ← exactly '}'
  return .table .braces (← Entries.addAll [] values)

/-- Reads a value in which so many brackets and braces may be open at once. -/
def value : Nat → Scan Node
  | 0 => simpleValue
  | levels + 1 => simpleValue <|> list (value levels) <|> braces (value levels)

/-- Reads the header of a table: a key in brackets, in double ones if the header is shared. -/
def header : Scan Line :=
  (Line.header · true) <$> (word ['[', '['] *> key <* word [']', ']']) <|>
    (Line.header · false) <$> (word ['['] *> key <* word [']'])

/-- Reads what a line says, without its end. -/
def content : Scan Line :=
  header <|> (fun (key, value) => Line.entry key value) <$> entry (value depthLimit)

/-- Reads a line. -/
def line : Scan Line := do
  let _ ← spaces
  let line ← optional content
  lineEnd
  return line.getD .blank

end Presence.Toml
