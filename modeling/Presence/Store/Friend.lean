import Presence.Account
import Presence.Flags.Kinds
import Presence.Registry.Person

/-!
# Friends

What a session knows about one person that the local account has a relation with. A new friend is
known by the relation alone; everything else becomes known later, field by field.
-/

namespace Presence

/-- A person that the local account has a relation with. -/
structure Friend where
  id : AccountId
  /-- How the person relates to the local account. -/
  relation : Wire FriendRelation
  /-- The persona name, empty until known. -/
  name : String := ""
  /-- The avatar's fingerprint, empty until known. -/
  avatar : String := ""
  status : Wire Status := default
  traits : FlagSet PersonaTrait := ∅
  /-- The application the person is in. -/
  appId : UInt32 := 0
  gameId : UInt64 := 0
  gameName : String := ""
deriving DecidableEq, Inhabited

namespace Friend

/-- A new value for one field. -/
inductive Edit where
  | relation (value : Wire FriendRelation)
  | name (value : String)
  | avatar (value : String)
  | status (value : Wire Status)
  | traits (value : FlagSet PersonaTrait)
  | appId (value : UInt32)
  | gameId (value : UInt64)
  | gameName (value : String)
deriving DecidableEq

/-- The friend with one field replaced. -/
def edit (friend : Friend) : Edit → Friend
  | .relation value => { friend with relation := value }
  | .name value => { friend with name := value }
  | .avatar value => { friend with avatar := value }
  | .status value => { friend with status := value }
  | .traits value => { friend with traits := value }
  | .appId value => { friend with appId := value }
  | .gameId value => { friend with gameId := value }
  | .gameName value => { friend with gameName := value }

/-- The friend after several edits, the first one first. -/
def editAll (friend : Friend) (edits : List Edit) : Friend := edits.foldl edit friend

end Friend

end Presence
