import Mathlib.Logic.Function.Basic
import Presence.Store.Basic
import Presence.Table.Lookup

/-!
# Stores as partial maps

A table is one way of keeping a partial map from accounts to records. `Maps` says what a store knows
as three such maps, with no word on how they are kept, and what each change does to them; the roster
of a room is itself a partial map. A store that changes stays in step with its maps,
`Store.maps_apply` and `Store.maps_applyAll`.
-/

namespace Presence

/-- At most one value for every account. -/
abbrev PartialMap (α : Type) := AccountId → Option α

namespace PartialMap

variable {α : Type}

def empty : PartialMap α := fun _ => none

def insertIfAbsent (map : PartialMap α) (id : AccountId) (value : α) : PartialMap α :=
  match map id with
  | none => Function.update map id (some value)
  | some _ => map

def delete (map : PartialMap α) (id : AccountId) : PartialMap α := Function.update map id none

def updateIfPresent (map : PartialMap α) (id : AccountId) (change : α → α) : PartialMap α :=
  match map id with
  | none => map
  | some value => Function.update map id (some (change value))

def replace (map : PartialMap α) (id : AccountId) (value : α) : PartialMap α :=
  Function.update map id (some value)

def insertThenUpdate (map : PartialMap α) (id : AccountId) (initial : α) (change : α → α) :
    PartialMap α :=
  (map.insertIfAbsent id initial).updateIfPresent id change

theorem insertIfAbsent_apply (map : PartialMap α) (id other : AccountId) (value : α) :
    map.insertIfAbsent id value other =
      if id = other then some ((map id).getD value) else map other := by
  rw [insertIfAbsent]
  by_cases id_eq : id = other
  · subst id_eq
    cases held : map id <;> simp [held]
  · cases held : map id <;> simp [id_eq, Ne.symm id_eq]

theorem updateIfPresent_apply (map : PartialMap α) (id other : AccountId) (change : α → α) :
    map.updateIfPresent id change other =
      if id = other then (map id).map change else map other := by
  rw [updateIfPresent]
  by_cases id_eq : id = other
  · subst id_eq
    cases held : map id <;> simp [held]
  · cases held : map id <;> simp [id_eq, Ne.symm id_eq]

theorem update_apply (map : PartialMap α) (id other : AccountId) (value : Option α) :
    Function.update map id value other = if id = other then value else map other := by
  rw [Function.update_apply]
  exact if_congr eq_comm rfl rfl

end PartialMap

/-! ### Tables -/

namespace Table

variable {α β : Type}

/-- The map that a table stands for, its values seen through `view`. -/
def toMap (table : Table α) (view : α → β) : PartialMap β := fun id => (table.get? id).map view

variable (view : α → β)

theorem toMap_insertIfNew (table : Table α) (id : AccountId) (value : α) :
    (table.insertIfNew id value).toMap view =
      (table.toMap view).insertIfAbsent id (view value) := by
  funext other
  rw [PartialMap.insertIfAbsent_apply, toMap, get?_insertIfNew, apply_ite (Option.map view)]
  cases held : table.get? id <;> simp [toMap, held]

theorem toMap_erase (table : Table α) (id : AccountId) :
    (table.erase id).toMap view = (table.toMap view).delete id := by
  funext other
  rw [PartialMap.delete, PartialMap.update_apply, toMap, get?_erase, apply_ite (Option.map view)]
  rfl

theorem toMap_insert (table : Table α) (id : AccountId) (value : α) :
    (table.insert id value).toMap view = (table.toMap view).replace id (view value) := by
  funext other
  rw [PartialMap.replace, PartialMap.update_apply, toMap, get?_insert,
    apply_ite (Option.map view)]
  rfl

theorem toMap_modify (table : Table α) (id : AccountId) (change : α → α) (changeSeen : β → β)
    (view_change : ∀ value, view (change value) = changeSeen (view value)) :
    (table.modify id change).toMap view = (table.toMap view).updateIfPresent id changeSeen := by
  funext other
  rw [PartialMap.updateIfPresent_apply, toMap, get?_modify, apply_ite (Option.map view)]
  cases held : table.get? id <;> simp [toMap, held, view_change]

theorem toMap_upsert (table : Table α) (id : AccountId) (initial : α) (change : α → α)
    (changeSeen : β → β) (view_change : ∀ value, view (change value) = changeSeen (view value)) :
    (table.upsert id initial change).toMap view =
      (table.toMap view).insertThenUpdate id (view initial) changeSeen := by
  funext other
  simp only [PartialMap.insertThenUpdate, PartialMap.updateIfPresent_apply,
    PartialMap.insertIfAbsent_apply, toMap, get?_upsert, apply_ite (Option.map view), if_pos]
  by_cases id_eq : id = other
  · simp [id_eq, view_change]
  · simp [id_eq]

end Table

/-! ### Rooms -/

/-- What is known about a room, its roster being a partial map. -/
structure RoomMap where
  id : AccountId
  clan : AccountId
  members : PartialMap Member := .empty

namespace RoomMap

def seat (room : RoomMap) (member : Member) : RoomMap :=
  { room with members := room.members.replace member.id member }

def dismiss (room : RoomMap) (id : AccountId) : RoomMap :=
  { room with members := room.members.delete id }

end RoomMap

namespace Room

def toMap (room : Room) : RoomMap where
  id := room.id
  clan := room.clan
  members := room.members.toMap fun member => member

theorem toMap_new (id clan : AccountId) : toMap { id, clan } = { id, clan } := rfl

theorem toMap_seat (room : Room) (member : Member) :
    (room.seat member).toMap = room.toMap.seat member := by
  simp only [toMap, seat, RoomMap.seat, Table.toMap_insert]

theorem toMap_dismiss (room : Room) (member : AccountId) :
    (room.dismiss member).toMap = room.toMap.dismiss member := by
  simp only [toMap, dismiss, RoomMap.dismiss, Table.toMap_erase]

end Room

/-! ### Stores -/

/-- What a store knows, as partial maps. -/
structure Maps where
  friends : PartialMap Friend := .empty
  clans : PartialMap Clan := .empty
  rooms : PartialMap RoomMap := .empty

namespace Maps

/-- What a change does to the maps. -/
def apply (maps : Maps) : Change → Maps
  | .addFriend friend => { maps with friends := maps.friends.insertIfAbsent friend.id friend }
  | .removeFriend id => { maps with friends := maps.friends.delete id }
  | .editFriend id edits =>
      { maps with friends := maps.friends.updateIfPresent id (·.editAll edits) }
  | .addClan clan => { maps with clans := maps.clans.insertIfAbsent clan.id clan }
  | .removeClan id => { maps with clans := maps.clans.delete id }
  | .editClan id edits => { maps with clans := maps.clans.updateIfPresent id (·.editAll edits) }
  | .addRoom room => { maps with rooms := maps.rooms.insertIfAbsent room.id room.toMap }
  | .removeRoom id => { maps with rooms := maps.rooms.delete id }
  | .enterRoom id clan => { maps with rooms := maps.rooms.replace id { id, clan } }
  | .seat room member =>
      { maps with
        rooms := maps.rooms.insertThenUpdate room { id := room, clan := default } (·.seat member) }
  | .dismiss room member =>
      { maps with rooms := maps.rooms.updateIfPresent room (·.dismiss member) }
  | .editPersona _ => maps

/-- The maps after some changes, the first one first. -/
def applyAll (maps : Maps) (changes : List Change) : Maps := changes.foldl apply maps

end Maps

namespace Store

/-- The maps that the tables of a store stand for. -/
def maps (store : Store) : Maps where
  friends := store.friends.toMap fun friend => friend
  clans := store.clans.toMap fun clan => clan
  rooms := store.rooms.toMap Room.toMap

theorem maps_new : maps {} = {} := rfl

theorem maps_apply (store : Store) (change : Change) :
    (store.apply change).maps = store.maps.apply change := by
  cases change with
  | addFriend friend | addClan clan | addRoom room =>
      simp only [maps, apply, Maps.apply, Table.toMap_insertIfNew]
  | removeFriend id | removeClan id | removeRoom id =>
      simp only [maps, apply, Maps.apply, Table.toMap_erase]
  | editFriend id edits =>
      have friends_eq := store.friends.toMap_modify (fun friend => friend) id
        (·.editAll edits) (·.editAll edits) (fun _ => rfl)
      simp only [maps, apply, Maps.apply, friends_eq]
  | editClan id edits =>
      have clans_eq := store.clans.toMap_modify (fun clan => clan) id
        (·.editAll edits) (·.editAll edits) (fun _ => rfl)
      simp only [maps, apply, Maps.apply, clans_eq]
  | enterRoom id clan =>
      simp only [maps, apply, Maps.apply, Table.toMap_insert, Room.toMap_new]
  | seat room member =>
      have rooms_eq := store.rooms.toMap_upsert Room.toMap room { id := room, clan := default }
        (·.seat member) (·.seat member) fun found => found.toMap_seat member
      simp only [maps, apply, Maps.apply, rooms_eq, Room.toMap_new]
  | dismiss room member =>
      have rooms_eq := store.rooms.toMap_modify Room.toMap room
        (·.dismiss member) (·.dismiss member) fun found => found.toMap_dismiss member
      simp only [maps, apply, Maps.apply, rooms_eq]
  | editPersona edits => rfl

theorem maps_applyAll (store : Store) (changes : List Change) :
    (store.applyAll changes).maps = store.maps.applyAll changes :=
  (List.foldl_hom maps fun store change => (maps_apply store change).symm).symm

end Store

end Presence
