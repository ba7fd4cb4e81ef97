import Presence.Toml.Line

/-!
# Documents

The lines of a document give a table: first the values in front of all headers, then one section
after the other, each with the values behind its header.
-/

namespace Presence.Toml

open Scan

/-- A table of a document with a header of its own. -/
structure Section where
  key : Key
  /-- Whether other tables may have the same header. -/
  shared : Bool
  values : List (Key × Node)

/-- The values in front of the first header, and the sections. -/
def sections : List Line → List (Key × Node) × List Section
  | [] => ([], [])
  | line :: rest =>
      let (values, others) := sections rest
      match line with
      | .blank => (values, others)
      | .entry key value => ((key, value) :: values, others)
      | .header key shared => ([], { key, shared, values } :: others)

namespace Entries

/-- Adds a section. -/
def addSection (entries : Entries) (added : Section) : Option Entries :=
  if added.shared then entries.addShared added.key added.values
  else entries.addTable added.key added.values

/-- The table that lines give, unless they contradict each other. -/
def ofLines? (lines : List Line) : Option Entries := do
  let (values, sections) := sections lines
  let entries ← addAll [] values
  sections.foldlM addSection entries

end Entries

/-- Reads all lines of a document, which may begin with a byte order mark. -/
def lines : Scan (List Line) :=
  optional (exactly (Char.ofNat 0xFEFF)) *> many line <* ended

/-- The table that a document gives, if it is well formed. -/
def Entries.ofText? (text : String) : Option Entries := do
  let (lines, _) ← lines.run text.toList
  Entries.ofLines? lines

end Presence.Toml
