import Presence.Record.Member
import Presence.Registry.Room

/-!
# State changes

A room tells its members what happens to one of them: the member concerned, what happened, and who
brought it about. When a member enters, the record of the member follows.
-/

namespace Presence

/-- A change in the state of a member of a room. -/
structure StateChange where
  actedOn : AccountId
  change : Wire MemberChange
  actedBy : AccountId
  /-- The record of a member who has entered. -/
  member : Option Member := none
deriving DecidableEq

namespace StateChange

/-- Reads the record that follows the change, if the change is one that has a record. -/
def readMember (change : Wire MemberChange) : Reader (Option Member) := do
  if change = .known .entered then
    Reader.skip "member record type" Member.typeLength
    some <$> Member.read
  else
    return none

/-- Reads a state change. -/
def read : Reader StateChange := do
  let actedOn ← Reader.uint64 "acted on"
  let code ← Reader.int32 "state change"
  let actedBy ← Reader.uint64 "acted by"
  let member ← readMember (.ofCode code)
  return { actedOn := ⟨actedOn⟩, change := .ofCode code, actedBy := ⟨actedBy⟩, member }

/-- The state change at the beginning of a payload. -/
def ofBytes (payload : List UInt8) : Except Shortfall StateChange :=
  (read.readAt { unread := payload }).1

/-- The payload that tells of a state change. -/
def bytes (change : StateChange) : List UInt8 :=
  Word.bytes 8 change.actedOn.raw.toNat ++ Word.bytes 4 change.change.code.toBitVec.toNat ++
    Word.bytes 8 change.actedBy.raw.toNat ++
    match change.member with
    | some member => 0 :: member.bytes
    | none => []

end StateChange

end Presence
