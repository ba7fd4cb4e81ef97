import Presence.Account
import Presence.Registry.Person

/-!
# Clans

What a session knows about one clan that the local account has a relation with.
-/

namespace Presence

/-- A clan that the local account has a relation with. -/
structure Clan where
  id : AccountId
  /-- How the clan relates to the local account. -/
  relation : Wire ClanRelation
  /-- The name, empty until known. -/
  name : String := ""
  /-- The avatar's fingerprint, empty until known. -/
  avatar : String := ""
  total : UInt32 := 0
  online : UInt32 := 0
  /-- The number of members in the clan's chat room. -/
  chatting : UInt32 := 0
  /-- The number of members in a game. -/
  inGame : UInt32 := 0
deriving DecidableEq, Inhabited

namespace Clan

/-- A new value for one field. -/
inductive Edit where
  | relation (value : Wire ClanRelation)
  | name (value : String)
  | avatar (value : String)
  | total (value : UInt32)
  | online (value : UInt32)
  | chatting (value : UInt32)
  | inGame (value : UInt32)
deriving DecidableEq

/-- The clan with one field replaced. -/
def edit (clan : Clan) : Edit → Clan
  | .relation value => { clan with relation := value }
  | .name value => { clan with name := value }
  | .avatar value => { clan with avatar := value }
  | .total value => { clan with total := value }
  | .online value => { clan with online := value }
  | .chatting value => { clan with chatting := value }
  | .inGame value => { clan with inGame := value }

/-- The clan after several edits, the first one first. -/
def editAll (clan : Clan) (edits : List Edit) : Clan := edits.foldl edit clan

end Clan

end Presence
