import Presence.Store.Basic
import Presence.Table.Lookup

/-!
# What a change does to one entry

A change concerns one account in one table. `Change.onFriend`, `Change.onClan` and `Change.onRoom`
say what it makes of the entry of a given account, which depends on nothing else in the store, and
`Change.onPersona` says what it makes of the local persona. After several changes an entry is what
the changes make of it one after another, so whatever is to be said about a table can be said about
each of its entries.
-/

namespace Presence

namespace Change

/-- What a change makes of the friend of an account. -/
def onFriend (id : AccountId) (friend : Option Friend) : Change → Option Friend
  | .addFriend added => if added.id = id then some (friend.getD added) else friend
  | .removeFriend removed => if removed = id then none else friend
  | .editFriend edited edits => if edited = id then friend.map (·.editAll edits) else friend
  | _ => friend

/-- What a change makes of the clan of an account. -/
def onClan (id : AccountId) (clan : Option Clan) : Change → Option Clan
  | .addClan added => if added.id = id then some (clan.getD added) else clan
  | .removeClan removed => if removed = id then none else clan
  | .editClan edited edits => if edited = id then clan.map (·.editAll edits) else clan
  | _ => clan

/-- What a change makes of the room of an account. -/
def onRoom (id : AccountId) (room : Option Room) : Change → Option Room
  | .addRoom added => if added.id = id then some (room.getD added) else room
  | .removeRoom removed => if removed = id then none else room
  | .enterRoom entered clan => if entered = id then some { id := entered, clan } else room
  | .seat place member =>
      if place = id then some ((room.getD { id := place, clan := default }).seat member) else room
  | .dismiss place member => if place = id then room.map (·.dismiss member) else room
  | _ => room

/-- What a change makes of the local persona. -/
def onPersona (persona : Persona) : Change → Persona
  | .editPersona edits => persona.editAll edits
  | _ => persona

/-- Whether a change is about rooms. -/
def inRooms : Change → Bool
  | .addRoom _ | .removeRoom _ | .enterRoom .. | .seat .. | .dismiss .. => true
  | _ => false

theorem onFriend_of_inRooms {change : Change} (in_rooms : change.inRooms) (id : AccountId)
    (friend : Option Friend) : change.onFriend id friend = friend := by
  cases change <;> first | rfl | cases in_rooms

theorem onClan_of_inRooms {change : Change} (in_rooms : change.inRooms) (id : AccountId)
    (clan : Option Clan) : change.onClan id clan = clan := by
  cases change <;> first | rfl | cases in_rooms

theorem onPersona_of_inRooms {change : Change} (in_rooms : change.inRooms) (persona : Persona) :
    change.onPersona persona = persona := by
  cases change <;> first | rfl | cases in_rooms

end Change

/-- A change to a table makes the new entry of an account from its old one. -/
theorem Table.get?_alter_self {α : Type} (table : Table α) (id other : AccountId)
    (change : Option α → Option α) :
    (table.alter id change).get? other =
      if id = other then change (table.get? other) else table.get? other := by
  rw [Table.get?_alter]
  split
  · next id_eq => rw [id_eq]
  · rfl

namespace Store

theorem friends_apply (store : Store) (change : Change) (id : AccountId) :
    (store.apply change).friends.get? id = change.onFriend id (store.friends.get? id) := by
  cases change with
  | addFriend added => exact Table.get?_alter_self ..
  | removeFriend removed => exact Table.get?_alter_self ..
  | editFriend edited edits => exact Table.get?_alter_self ..
  | _ => rfl

theorem clans_apply (store : Store) (change : Change) (id : AccountId) :
    (store.apply change).clans.get? id = change.onClan id (store.clans.get? id) := by
  cases change with
  | addClan added => exact Table.get?_alter_self ..
  | removeClan removed => exact Table.get?_alter_self ..
  | editClan edited edits => exact Table.get?_alter_self ..
  | _ => rfl

theorem rooms_apply (store : Store) (change : Change) (id : AccountId) :
    (store.apply change).rooms.get? id = change.onRoom id (store.rooms.get? id) := by
  cases change with
  | addRoom added => exact Table.get?_alter_self ..
  | removeRoom removed => exact Table.get?_alter_self ..
  | enterRoom entered clan => exact Table.get?_alter_self ..
  | seat place member => exact Table.get?_alter_self ..
  | dismiss place member => exact Table.get?_alter_self ..
  | _ => rfl

theorem persona_apply (store : Store) (change : Change) :
    (store.apply change).persona = change.onPersona store.persona := by
  cases change <;> rfl

/-- A store is determined by its entries and the local persona. -/
theorem ext_entries {first second : Store}
    (friends_eq : ∀ id, first.friends.get? id = second.friends.get? id)
    (clans_eq : ∀ id, first.clans.get? id = second.clans.get? id)
    (rooms_eq : ∀ id, first.rooms.get? id = second.rooms.get? id)
    (persona_eq : first.persona = second.persona) : first = second := by
  cases first
  cases second
  simp only [Store.mk.injEq]
  exact ⟨Table.ext_get? friends_eq, Table.ext_get? clans_eq, Table.ext_get? rooms_eq, persona_eq⟩

/-! ### Several changes -/

@[simp]
theorem applyAll_nil (store : Store) : store.applyAll [] = store := rfl

@[simp]
theorem applyAll_cons (store : Store) (change : Change) (rest : List Change) :
    store.applyAll (change :: rest) = (store.apply change).applyAll rest := rfl

theorem applyAll_append (store : Store) (first second : List Change) :
    store.applyAll (first ++ second) = (store.applyAll first).applyAll second :=
  List.foldl_append

theorem friends_applyAll (store : Store) (changes : List Change) (id : AccountId) :
    (store.applyAll changes).friends.get? id =
      changes.foldl (Change.onFriend id) (store.friends.get? id) :=
  (List.foldl_hom (fun store : Store => store.friends.get? id) fun store change =>
    (friends_apply store change id).symm).symm

theorem clans_applyAll (store : Store) (changes : List Change) (id : AccountId) :
    (store.applyAll changes).clans.get? id =
      changes.foldl (Change.onClan id) (store.clans.get? id) :=
  (List.foldl_hom (fun store : Store => store.clans.get? id) fun store change =>
    (clans_apply store change id).symm).symm

theorem rooms_applyAll (store : Store) (changes : List Change) (id : AccountId) :
    (store.applyAll changes).rooms.get? id =
      changes.foldl (Change.onRoom id) (store.rooms.get? id) :=
  (List.foldl_hom (fun store : Store => store.rooms.get? id) fun store change =>
    (rooms_apply store change id).symm).symm

theorem persona_applyAll (store : Store) (changes : List Change) :
    (store.applyAll changes).persona = changes.foldl Change.onPersona store.persona :=
  (List.foldl_hom Store.persona fun store change => (persona_apply store change).symm).symm

end Store

end Presence
