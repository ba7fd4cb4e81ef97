import Presence.Account
import Presence.Flags.Kinds
import Presence.Record.Cursor

/-!
# Member records

A member of a room travels as a tagged record of three fields: the member's identifier and two sets
of permissions. Every field is preceded by a byte for its type and by its name; neither is looked
at when a record is read.
-/

namespace Presence

/-- A member of a room. -/
structure Member where
  id : AccountId
  /-- What the member may do in the room. -/
  rights : FlagSet RoomRight
  /-- The member's standing in the clan that owns the room. -/
  rank : FlagSet ClanRank
deriving DecidableEq, Inhabited

namespace Member

/-- The length of the type in front of a field. -/
def typeLength : Nat := 1

/-- The type of an unsigned number of eight bytes. -/
def uint64Type : UInt8 := 7

/-- The type of a signed number of four bytes. -/
def int32Type : UInt8 := 2

/-- Reads a member record. -/
def read : Reader Member := do
  let _ ← Reader.text "member tag"
  Reader.skip "member id type" typeLength
  let _ ← Reader.text "member id key"
  let raw ← Reader.uint64 "member id"
  Reader.skip "chat permissions type" typeLength
  let _ ← Reader.text "chat permissions key"
  let rights ← Reader.word32 "chat permissions"
  Reader.skip "clan permissions type" typeLength
  let _ ← Reader.text "clan permissions key"
  let rank ← Reader.word32 "clan permissions"
  return { id := ⟨raw⟩, rights := ⟨rights⟩, rank := ⟨rank⟩ }

/-- A text as it stands in a record. -/
def terminated (text : String) : List UInt8 := Utf8.encode text ++ [0]

/-- The record of a member. -/
def bytes (member : Member) : List UInt8 :=
  terminated "MessageObject" ++
    uint64Type :: terminated "steamid" ++ Word.bytes 8 member.id.raw.toNat ++
    int32Type :: terminated "Permissions" ++ Word.bytes 4 member.rights.bits.toNat ++
    int32Type :: terminated "Details" ++ Word.bytes 4 member.rank.bits.toNat

end Member

end Presence
