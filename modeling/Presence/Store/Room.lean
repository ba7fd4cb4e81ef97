import Presence.Record.Member
import Presence.Table.Basic

/-!
# Chat rooms

A room that the session has heard of, with the members known to be in it. The members are part of
the room: they come and go with it.
-/

namespace Presence

/-- A chat room with its members. -/
structure Room where
  id : AccountId
  /-- The clan that owns the room, zero if there is none. -/
  clan : AccountId
  members : Table Member := ∅
deriving DecidableEq, Inhabited

namespace Room

/-- The room with a further member, who replaces an earlier one of the same account. -/
def seat (room : Room) (member : Member) : Room :=
  { room with members := room.members.insert member.id member }

/-- The room without a member. -/
def dismiss (room : Room) (id : AccountId) : Room :=
  { room with members := room.members.erase id }

end Room

end Presence
