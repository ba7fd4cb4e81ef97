import Presence.Record.Word
import Presence.Text.Utf8

/-!
# Reading records

Room messages embed binary records. A record is read field by field from the front; `Cursor` says
how far the reading has come. A field is read whole or not at all: when too few bytes are left, the
cursor stays where it is and the reading ends with a `Shortfall` that names the field.
-/

namespace Presence

/-- A place in a sequence of bytes. -/
structure Cursor where
  /-- The bytes that are still to be read. -/
  unread : List UInt8
  /-- The number of bytes read so far. -/
  position : Nat := 0
deriving DecidableEq

namespace Cursor

/-- The number of bytes that are still to be read. -/
def remaining (cursor : Cursor) : Nat := cursor.unread.length

/-- The place `count` bytes further on. -/
def advance (cursor : Cursor) (count : Nat) : Cursor where
  unread := cursor.unread.drop count
  position := cursor.position + count

end Cursor

/-- The bytes ended before a field was complete. -/
structure Shortfall where
  /-- The field that was being read. -/
  field : String
  /-- The place at which the field begins. -/
  offset : Nat
  /-- The number of bytes that the field takes, at the least. -/
  needed : Nat
  /-- The number of bytes that were left. -/
  available : Nat
deriving DecidableEq

/-- The wording of the error. -/
def Shortfall.message (shortfall : Shortfall) : String :=
  s!"malformed record: {shortfall.field} at byte {shortfall.offset} needs " ++
    s!"{shortfall.needed} bytes, {shortfall.available} left"

/-- A way to read a value at a cursor. The cursor moves past whatever was read, also when a later
field turns out to be incomplete. -/
abbrev Reader (α : Type) := ExceptT Shortfall (StateM Cursor) α

namespace Reader

/-- Reads at a cursor, and gives what was read together with the place reached. -/
def readAt {α : Type} (reader : Reader α) (cursor : Cursor) : Except Shortfall α × Cursor :=
  reader.run cursor

/-- Reads a field of `count` bytes. -/
def take (field : String) (count : Nat) : Reader (List UInt8) := fun cursor =>
  if count ≤ cursor.remaining then (.ok (cursor.unread.take count), cursor.advance count)
  else (.error ⟨field, cursor.position, count, cursor.remaining⟩, cursor)

/-- Passes over a field of `count` bytes. -/
def skip (field : String) (count : Nat) : Reader Unit := do
  let _ ← take field count

/-- Reads a number of `width` bytes. -/
def word (field : String) (width : Nat) : Reader Nat := Word.ofBytes <$> take field width

/-- Reads a byte. -/
def byte (field : String) : Reader UInt8 := UInt8.ofNat <$> word field 1

/-- Reads an unsigned number of eight bytes. -/
def uint64 (field : String) : Reader UInt64 := UInt64.ofNat <$> word field 8

/-- Reads a word of four bytes. -/
def word32 (field : String) : Reader (BitVec 32) := BitVec.ofNat 32 <$> word field 4

/-- Reads a signed number of four bytes. -/
def int32 (field : String) : Reader Int32 := Int32.ofBitVec <$> word32 field

/-- Reads a text that ends with a zero byte. -/
def text (field : String) : Reader String := fun cursor =>
  let length := (cursor.unread.takeWhile (· ≠ 0)).length
  if length < cursor.remaining then
    (.ok (Utf8.decode (cursor.unread.take length)), cursor.advance (length + 1))
  else (.error ⟨field, cursor.position, length + 1, length⟩, cursor)

end Reader

end Presence
