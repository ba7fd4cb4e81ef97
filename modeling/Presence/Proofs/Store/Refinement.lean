import Mathlib.Data.Set.Card
import Presence.Proofs.Store.Entries
import Presence.Proofs.Store.Fields
import Presence.Proofs.Store.PartialMaps
import Presence.Proofs.Store.WellFormed

/-!
# Stores in use

Somebody who uses a store changes it and takes copies of what is in it. Whatever has been done, each
of the three tables answers as the partial map would that went through the same changes, a setter is
confined to its field, and a copy stays what it was when it was taken, `Store.stands_for_maps`.
-/

namespace Presence

/-! ### Tables -/

namespace Table

variable {α : Type}

theorem nodup_keys (table : Table α) : (table.entries.map Prod.fst).Nodup := by
  apply List.pairwise_map.mpr
  apply table.ascending.imp
  intro first second first_lt keys_eq
  rw [keys_eq] at first_lt
  exact AccountId.lt_irrefl _ first_lt

theorem mem_entries_iff (table : Table α) (id : AccountId) (value : α) :
    (id, value) ∈ table.entries ↔ table.get? id = some value :=
  (lookup_eq_some_iff table.ascending).symm

theorem contains_iff (table : Table α) (id : AccountId) :
    table.contains id ↔ ∃ value, table.get? id = some value :=
  Option.isSome_iff_exists

theorem mem_keys_iff (table : Table α) (id : AccountId) :
    id ∈ table.entries.map Prod.fst ↔ table.contains id := by
  rw [contains_iff, List.mem_map]
  constructor
  · rintro ⟨⟨key, value⟩, entry_mem, rfl⟩
    exact ⟨value, (table.mem_entries_iff key value).mp entry_mem⟩
  · rintro ⟨value, found⟩
    exact ⟨(id, value), (table.mem_entries_iff id value).mpr found, rfl⟩

theorem encard_keys (table : Table α) : {id | table.contains id}.encard = table.size := by
  have keys_eq :
      {id | table.contains id} = ((table.entries.map Prod.fst).toFinset : Set AccountId) := by
    ext id
    simp only [Set.mem_ofPred_eq, List.coe_toFinset, mem_keys_iff]
  rw [keys_eq, Set.encard_coe_eq_coe_finsetCard, List.toFinset_card_of_nodup table.nodup_keys,
    List.length_map, size]

theorem insertIfNew_of_contains {table : Table α} {id : AccountId} (present : table.contains id)
    (value : α) : table.insertIfNew id value = table := by
  obtain ⟨held, found⟩ := (table.contains_iff id).mp present
  apply ext_get?
  intro other
  rw [get?_insertIfNew, found]
  split
  · next id_eq => rw [← id_eq, found, Option.getD_some]
  · rfl

end Table

/-! ### The three tables of a store -/

/-- One of the tables of a store, with the map that it stands for. -/
structure Part (α β : Type) where
  table : Store → Table α
  key : α → AccountId
  add : α → Change
  remove : AccountId → Change
  map : Maps → PartialMap β
  /-- A record as it stands in the map. -/
  view : α → β

namespace Part

def friends : Part Friend Friend where
  table := Store.friends
  key := Friend.id
  add := .addFriend
  remove := .removeFriend
  map := Maps.friends
  view friend := friend

def clans : Part Clan Clan where
  table := Store.clans
  key := Clan.id
  add := .addClan
  remove := .removeClan
  map := Maps.clans
  view clan := clan

def rooms : Part Room RoomMap where
  table := Store.rooms
  key := Room.id
  add := .addRoom
  remove := .removeRoom
  map := Maps.rooms
  view := Room.toMap

variable {α β : Type}

/-- A table of a store answers as the map does. -/
structure Refines (part : Part α β) (store : Store) (maps : Maps) : Prop where
  get?_eq : ∀ id, ((part.table store).get? id).map part.view = part.map maps id
  /-- A copy of the whole table lists the map. -/
  mem_copy_iff : ∀ id seen,
    (id, seen) ∈ (part.table store).entries.map (fun entry => (entry.1, part.view entry.2)) ↔
      part.map maps id = some seen
  /-- It does so without repetition. -/
  nodup_copy : ((part.table store).entries.map Prod.fst).Nodup
  contains_iff : ∀ id,
    (part.table store).contains id ↔ ∃ record, (part.table store).get? id = some record
  size_eq : {id | part.map maps id ≠ none}.encard = (part.table store).size
  keyed : (part.table store).All fun id record => part.key record = id
  suits_add_iff : ∀ record,
    store.suits (part.add record) ↔ part.map maps (part.key record) = none
  add_of_present : ∀ record, part.map maps (part.key record) ≠ none →
    store.apply (part.add record) = store
  suits_remove_iff : ∀ id, store.suits (part.remove id) ↔ part.map maps id ≠ none

/-- What the three parts have in common. -/
structure Lawful (part : Part α β) : Prop where
  map_maps : ∀ store : Store, part.map store.maps = (part.table store).toMap part.view
  suits_add : ∀ (store : Store) (record : α),
    store.suits (part.add record) = !(part.table store).contains (part.key record)
  suits_remove : ∀ (store : Store) (id : AccountId),
    store.suits (part.remove id) = (part.table store).contains id
  apply_add : ∀ (store : Store) (record : α), (part.table store).contains (part.key record) →
    store.apply (part.add record) = store

theorem friends_lawful : friends.Lawful where
  map_maps _ := rfl
  suits_add _ _ := rfl
  suits_remove _ _ := rfl
  apply_add store friend present :=
    congrArg (fun friends => { store with friends }) (Table.insertIfNew_of_contains present friend)

theorem clans_lawful : clans.Lawful where
  map_maps _ := rfl
  suits_add _ _ := rfl
  suits_remove _ _ := rfl
  apply_add store clan present :=
    congrArg (fun clans => { store with clans }) (Table.insertIfNew_of_contains present clan)

theorem rooms_lawful : rooms.Lawful where
  map_maps _ := rfl
  suits_add _ _ := rfl
  suits_remove _ _ := rfl
  apply_add store room present :=
    congrArg (fun rooms => { store with rooms }) (Table.insertIfNew_of_contains present room)

theorem Lawful.map_ne_none_iff {part : Part α β} (lawful : part.Lawful) (store : Store)
    (id : AccountId) : part.map store.maps id ≠ none ↔ (part.table store).contains id := by
  rw [lawful.map_maps, Table.toMap, Table.contains, ← Option.isSome_iff_ne_none, Option.isSome_map]

theorem Lawful.refines {part : Part α β} (lawful : part.Lawful) {store : Store}
    (keyed : (part.table store).All fun id record => part.key record = id) :
    part.Refines store store.maps where
  get?_eq id := by
    rw [lawful.map_maps, Table.toMap]
  mem_copy_iff id seen := by
    simp only [lawful.map_maps, Table.toMap, Option.map_eq_some_iff, List.mem_map, Prod.exists,
      Prod.mk.injEq, Table.mem_entries_iff]
    constructor
    · rintro ⟨key, record, found, rfl, seen_eq⟩
      exact ⟨record, found, seen_eq⟩
    · rintro ⟨record, found, seen_eq⟩
      exact ⟨id, record, found, rfl, seen_eq⟩
  nodup_copy := (part.table store).nodup_keys
  contains_iff := (part.table store).contains_iff
  size_eq := by
    simp only [lawful.map_ne_none_iff, Table.encard_keys]
  keyed := keyed
  suits_add_iff record := by
    rw [lawful.suits_add, Bool.not_eq_true', ← Bool.not_eq_true, ← lawful.map_ne_none_iff,
      not_ne_iff]
  add_of_present record present := by
    apply lawful.apply_add
    exact (lawful.map_ne_none_iff store _).mp present
  suits_remove_iff id := by
    rw [lawful.suits_remove, lawful.map_ne_none_iff]

end Part

/-! ### Records stand under their own identifiers -/

namespace Store

structure Keyed (store : Store) : Prop where
  friends : store.friends.All fun id friend => friend.id = id
  clans : store.clans.All fun id clan => clan.id = id
  rooms : store.rooms.All fun id room => room.id = id

theorem Keyed.new : Keyed {} where
  friends := .empty
  clans := .empty
  rooms := .empty

theorem Keyed.apply {store : Store} (keyed : store.Keyed) (change : Change) :
    (store.apply change).Keyed := by
  cases change with
  | addFriend friend => exact { keyed with friends := keyed.friends.insertIfNew rfl }
  | removeFriend id => exact { keyed with friends := keyed.friends.erase id }
  | editFriend id edits =>
      have friends : (store.friends.modify id (·.editAll edits)).All fun id friend =>
          friend.id = id := by
        apply keyed.friends.modify
        intro friend id_eq
        rw [Friend.id_editAll, id_eq]
      exact { keyed with friends }
  | addClan clan => exact { keyed with clans := keyed.clans.insertIfNew rfl }
  | removeClan id => exact { keyed with clans := keyed.clans.erase id }
  | editClan id edits =>
      have clans : (store.clans.modify id (·.editAll edits)).All fun id clan => clan.id = id := by
        apply keyed.clans.modify
        intro clan id_eq
        rw [Clan.id_editAll, id_eq]
      exact { keyed with clans }
  | addRoom room => exact { keyed with rooms := keyed.rooms.insertIfNew rfl }
  | removeRoom id => exact { keyed with rooms := keyed.rooms.erase id }
  | enterRoom id clan => exact { keyed with rooms := keyed.rooms.insert rfl }
  | seat room member => exact { keyed with rooms := keyed.rooms.upsert rfl fun _ id_eq => id_eq }
  | dismiss room member => exact { keyed with rooms := keyed.rooms.modify fun _ id_eq => id_eq }
  | editPersona edits => exact { keyed with }

theorem Keyed.applyAll {store : Store} (keyed : store.Keyed) (changes : List Change) :
    (store.applyAll changes).Keyed :=
  List.foldlRecOn changes Store.apply keyed fun _ kept change _ => kept.apply change

end Store

/-! ### Use -/

/-- What can be done with a store: it can be changed, and something in it can be copied. -/
inductive Use (γ : Type) where
  | change (change : Change)
  | copy (take : Store → γ)

def Use.change? {γ : Type} : Use γ → Option Change
  | .change made => some made
  | .copy _ => none

theorem Use.mem_changes_iff {γ : Type} (uses : List (Use γ)) (made : Change) :
    made ∈ uses.filterMap change? ↔ .change made ∈ uses := by
  rw [List.mem_filterMap]
  constructor
  · rintro ⟨use, use_mem, use_eq⟩
    cases use with
    | change found =>
        cases use_eq
        exact use_mem
    | copy take => cases use_eq
  · intro use_mem
    exact ⟨.change made, use_mem, rfl⟩

/-- A store in use, with the copies taken so far. -/
structure Desk (γ : Type) where
  store : Store := {}
  copies : List γ := []

namespace Desk

variable {γ : Type}

def use (desk : Desk γ) : Use γ → Desk γ
  | .change change => { desk with store := desk.store.apply change }
  | .copy take => { desk with copies := desk.copies ++ [take desk.store] }

def useAll (desk : Desk γ) (uses : List (Use γ)) : Desk γ := uses.foldl use desk

@[simp]
theorem useAll_cons (desk : Desk γ) (first : Use γ) (rest : List (Use γ)) :
    desk.useAll (first :: rest) = (desk.use first).useAll rest := rfl

theorem useAll_append (desk : Desk γ) (first second : List (Use γ)) :
    desk.useAll (first ++ second) = (desk.useAll first).useAll second :=
  List.foldl_append

theorem store_useAll (desk : Desk γ) (uses : List (Use γ)) :
    (desk.useAll uses).store = desk.store.applyAll (uses.filterMap Use.change?) := by
  induction uses generalizing desk with
  | nil => rfl
  | cons first rest ih =>
      rw [useAll_cons, ih]
      cases first <;> simp [List.filterMap_cons, Use.change?, use]

theorem copies_useAll (desk : Desk γ) (uses : List (Use γ)) :
    desk.copies <+: (desk.useAll uses).copies := by
  induction uses generalizing desk with
  | nil => exact List.prefix_rfl
  | cons first rest ih =>
      apply List.IsPrefix.trans _ (ih (desk.use first))
      cases first with
      | change change => exact List.prefix_rfl
      | copy take => exact List.prefix_append ..

/-- A copy is what was there when it was taken, whatever is done later. -/
theorem copy_kept (desk : Desk γ) (take : Store → γ) (later : List (Use γ)) :
    (desk.useAll (.copy take :: later)).copies[desk.copies.length]? = some (take desk.store) := by
  -- Copies are only ever appended, so the place of this one is settled at once.
  obtain ⟨taken, copies_eq⟩ := (desk.use (.copy take)).copies_useAll later
  rw [useAll_cons, ← copies_eq]
  simp [use]

end Desk

/-- However a store is used from the beginning on, its tables stand for the maps that went through
the same changes, setters are confined to a field of a record, rosters are keyed by their members
unless a room is added with another sort of roster, and a copy stays as it was taken. -/
theorem Store.stands_for_maps {γ : Type} (uses : List (Use γ)) :
    let store := (Desk.useAll {} uses).store
    let maps := Maps.applyAll {} (uses.filterMap Use.change?)
    Part.friends.Refines store maps ∧ Part.clans.Refines store maps ∧
      Part.rooms.Refines store maps ∧
    (∀ id (edit : Friend.Edit), ∃ friends,
      store.apply (.setFriend id edit) = { store with friends } ∧
        Table.SetsField Friend.id Friend.read id edit.field edit.value store.friends friends) ∧
    (∀ id (edit : Clan.Edit), ∃ clans,
      store.apply (.setClan id edit) = { store with clans } ∧
        Table.SetsField Clan.id Clan.read id edit.field edit.value store.clans clans) ∧
    ((∀ room, .change (.addRoom room) ∈ uses → room.WellFormed room.id) →
      store.rooms.All Room.WellFormed) ∧
    ∀ take later,
      (Desk.useAll {} (uses ++ .copy take :: later)).copies[(Desk.useAll {} uses).copies.length]? =
        some (take store) := by
  intro store maps
  have store_eq : store = Store.applyAll {} (uses.filterMap Use.change?) :=
    Desk.store_useAll {} uses
  have maps_eq : maps = store.maps := by
    rw [store_eq, maps_applyAll, maps_new]
  have keyed : store.Keyed := by
    rw [store_eq]
    exact Keyed.new.applyAll _
  rw [maps_eq]
  refine ⟨Part.friends_lawful.refines keyed.friends, Part.clans_lawful.refines keyed.clans,
    Part.rooms_lawful.refines keyed.rooms, store.setsField_friend, store.setsField_clan,
    ?rosters, ?copies⟩
  case rosters =>
    intro added
    rw [store_eq]
    apply rosters_applyAll .empty
    intro room room_mem
    exact added room ((Use.mem_changes_iff uses _).mp room_mem)
  case copies =>
    intro take later
    rw [Desk.useAll_append]
    exact Desk.copy_kept ..

end Presence
