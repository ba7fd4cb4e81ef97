import Presence.Store.Clan
import Presence.Store.Friend
import Presence.Store.Persona
import Presence.Store.Room
import Presence.Text.Quoted

/-!
# The store

Everything that a session knows: its friends, its clans, the chat rooms with their members, and the
local persona. The store changes by `Store.apply` alone. A `Change` is done as a whole, so nobody
ever sees a record of which only some fields are new.
-/

namespace Presence

/-- What a session knows. -/
structure Store where
  /-- The people that the local account has a relation with. -/
  friends : Table Friend := ∅
  /-- The clans that the local account has a relation with. -/
  clans : Table Clan := ∅
  /-- The rooms that the session has heard of. -/
  rooms : Table Room := ∅
  /-- What the local account shows of itself. -/
  persona : Persona := {}
deriving DecidableEq, Inhabited

/-- One change to a store. -/
inductive Change where
  /-- Adds a friend, unless there is one of that account. -/
  | addFriend (friend : Friend)
  | removeFriend (id : AccountId)
  /-- Edits a friend, if there is one of that account. -/
  | editFriend (id : AccountId) (edits : List Friend.Edit)
  /-- Adds a clan, unless there is one of that account. -/
  | addClan (clan : Clan)
  | removeClan (id : AccountId)
  /-- Edits a clan, if there is one of that account. -/
  | editClan (id : AccountId) (edits : List Clan.Edit)
  /-- Adds a room, unless there is one of that account. -/
  | addRoom (room : Room)
  | removeRoom (id : AccountId)
  /-- Sets up a room without members, in place of any earlier one of that account. -/
  | enterRoom (id clan : AccountId)
  /-- Adds a member to a room; a room not heard of before is set up, without a clan. -/
  | seat (room : AccountId) (member : Member)
  /-- Removes a member from a room, if there is such a room. -/
  | dismiss (room member : AccountId)
  | editPersona (edits : List Persona.Edit)
deriving DecidableEq

namespace Store

/-- The store after a change. -/
def apply (store : Store) : Change → Store
  | .addFriend friend => { store with friends := store.friends.insertIfNew friend.id friend }
  | .removeFriend id => { store with friends := store.friends.erase id }
  | .editFriend id edits =>
      { store with friends := store.friends.modify id (·.editAll edits) }
  | .addClan clan => { store with clans := store.clans.insertIfNew clan.id clan }
  | .removeClan id => { store with clans := store.clans.erase id }
  | .editClan id edits => { store with clans := store.clans.modify id (·.editAll edits) }
  | .addRoom room => { store with rooms := store.rooms.insertIfNew room.id room }
  | .removeRoom id => { store with rooms := store.rooms.erase id }
  | .enterRoom id clan => { store with rooms := store.rooms.insert id { id, clan } }
  | .seat room member =>
      { store with
        rooms := store.rooms.upsert room { id := room, clan := default } (·.seat member) }
  | .dismiss room member => { store with rooms := store.rooms.modify room (·.dismiss member) }
  | .editPersona edits => { store with persona := store.persona.editAll edits }

/-- The store after several changes, the first one first. -/
def applyAll (store : Store) (changes : List Change) : Store := changes.foldl apply store

/-- Whether a change finds what it is about: whatever it adds is new, and whatever it removes or
edits is there. -/
def suits (store : Store) : Change → Bool
  | .addFriend friend => !store.friends.contains friend.id
  | .removeFriend id | .editFriend id _ => store.friends.contains id
  | .addClan clan => !store.clans.contains clan.id
  | .removeClan id | .editClan id _ => store.clans.contains id
  | .addRoom room => !store.rooms.contains room.id
  | .removeRoom id | .dismiss id _ => store.rooms.contains id
  | .enterRoom .. | .seat .. | .editPersona _ => true

/-- The text that sums a store up: the sizes of the tables, and the local persona in full. -/
def summary (store : Store) : String :=
  let name := Text.quoted store.persona.name
  let avatar := Text.quoted store.persona.avatar
  let persona :=
    s!"LocalPersona \x7b name: {name}, avatar: {avatar}, " ++
      s!"persona_state: {store.persona.status.label} \x7d"
  s!"Social \x7b friends: {store.friends.size}, groups: {store.clans.size}, " ++
    s!"chats: {store.rooms.size}, local: {persona}, .. \x7d"

end Store

end Presence
