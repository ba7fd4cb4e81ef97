import Presence.Proofs.Avatar
import Presence.Proofs.Registry
import Presence.Store.Basic
import Presence.Table.Lookup

/-!
# Well-formed stores

What can be relied on whenever a store is read: every entry stands under its own identifier, nobody
is kept without a relation, clans and people do not mix, avatars are fingerprints, and of an account
that is not a single person nothing but the relation is known. A change keeps all this if what it
brings into the store is sound, `Store.WellFormed.apply`.
-/

namespace Presence

/-! ### Conditions on all entries of a table -/

namespace Table

variable {α : Type}

/-- All entries of a table satisfy a condition on the identifier and the value. -/
def All (condition : AccountId → α → Prop) (table : Table α) : Prop :=
  ∀ id value, table.get? id = some value → condition id value

variable {condition : AccountId → α → Prop} {table : Table α}

theorem All.empty : (∅ : Table α).All condition := nofun

/-- An alteration concerns one entry only. -/
theorem All.alter (all : table.All condition) {id : AccountId} {change : Option α → Option α}
    (kept : ∀ value, change (table.get? id) = some value → condition id value) :
    (table.alter id change).All condition := by
  intro other value found
  rw [get?_alter] at found
  split at found
  · next id_eq =>
      rw [← id_eq]
      exact kept value found
  · exact all other value found

theorem All.insert (all : table.All condition) {id : AccountId} {value : α}
    (holds : condition id value) : (table.insert id value).All condition := by
  apply all.alter
  rintro _ ⟨⟩
  exact holds

theorem All.erase (all : table.All condition) (id : AccountId) :
    (table.erase id).All condition := by
  apply all.alter
  nofun

theorem All.upsert (all : table.All condition) {id : AccountId} {initial : α} {change : α → α}
    (holds : condition id initial)
    (kept : ∀ value, condition id value → condition id (change value)) :
    (table.upsert id initial change).All condition := by
  apply all.alter
  rintro _ ⟨⟩
  apply kept
  cases held : table.get? id with
  | none => exact holds
  | some value => exact all id value held

theorem All.insertIfNew (all : table.All condition) {id : AccountId} {value : α}
    (holds : condition id value) : (table.insertIfNew id value).All condition :=
  all.upsert holds fun _ kept => kept

theorem All.modify (all : table.All condition) {id : AccountId} {change : α → α}
    (kept : ∀ value, condition id value → condition id (change value)) :
    (table.modify id change).All condition := by
  apply all.alter
  intro value changed
  rcases Option.map_eq_some_iff.mp changed with ⟨old, held, rfl⟩
  exact kept old (all id old held)

end Table

/-! ### Entries -/

/-- An avatar is unknown or a fingerprint. -/
def Avatar.Kept (avatar : String) : Prop := avatar = "" ∨ IsFingerprint avatar

/-- A friend of whom nothing is known but the relation. -/
structure Friend.Bare (friend : Friend) : Prop where
  name_eq : friend.name = ""
  avatar_eq : friend.avatar = ""
  status_eq : friend.status = .known .offline
  traits_eq : friend.traits = ∅
  appId_eq : friend.appId = 0
  gameId_eq : friend.gameId = 0
  gameName_eq : friend.gameName = ""

/-- What holds of every friend, `id` being where the friend stands in the table. -/
structure Friend.WellFormed (id : AccountId) (friend : Friend) : Prop where
  id_eq : friend.id = id
  not_clan : id.isClan = false
  related : friend.relation ≠ .known .none
  canonical : friend.relation.Canonical
  avatar : Avatar.Kept friend.avatar
  bare : id.isIndividual = false → friend.Bare

/-- What holds of every clan. -/
structure Clan.WellFormed (id : AccountId) (clan : Clan) : Prop where
  id_eq : clan.id = id
  is_clan : id.isClan
  related : clan.relation ≠ .known .none
  canonical : clan.relation.Canonical
  avatar : Avatar.Kept clan.avatar

/-- What holds of every room: it stands under its own identifier, and so do its members. -/
structure Room.WellFormed (id : AccountId) (room : Room) : Prop where
  id_eq : room.id = id
  members : room.members.All fun key member => member.id = key

/-- What holds of the local persona. -/
structure Persona.WellFormed (persona : Persona) : Prop where
  avatar : Avatar.Kept persona.avatar

/-- What can be relied on whenever a store is read. -/
structure Store.WellFormed (store : Store) : Prop where
  friends : store.friends.All Friend.WellFormed
  clans : store.clans.All Clan.WellFormed
  rooms : store.rooms.All Room.WellFormed
  persona : store.persona.WellFormed

theorem Friend.WellFormed.new {id : AccountId} (not_clan : id.isClan = false)
    {relation : Wire FriendRelation} (related : relation ≠ .known .none)
    (canonical : relation.Canonical) : Friend.WellFormed id { id, relation } where
  id_eq := rfl
  not_clan := not_clan
  related := related
  canonical := canonical
  avatar := .inl rfl
  bare _ := ⟨rfl, rfl, rfl, rfl, rfl, rfl, rfl⟩

theorem Clan.WellFormed.new {id : AccountId} (is_clan : id.isClan)
    {relation : Wire ClanRelation} (related : relation ≠ .known .none)
    (canonical : relation.Canonical) : Clan.WellFormed id { id, relation } where
  id_eq := rfl
  is_clan := is_clan
  related := related
  canonical := canonical
  avatar := .inl rfl

theorem Room.WellFormed.new (id clan : AccountId) : Room.WellFormed id { id, clan } where
  id_eq := rfl
  members := .empty

theorem Persona.WellFormed.new : Persona.WellFormed {} where
  avatar := .inl rfl

theorem Store.WellFormed.new : Store.WellFormed {} where
  friends := .empty
  clans := .empty
  rooms := .empty
  persona := .new

/-! ### Edits -/

/-- Whether a value may be set for a friend. -/
def Friend.Edit.Sound : Friend.Edit → Prop
  | .relation value => value ≠ .known .none ∧ value.Canonical
  | .avatar value => Avatar.IsFingerprint value
  | _ => True

/-- Whether a value may be set for a clan. -/
def Clan.Edit.Sound : Clan.Edit → Prop
  | .relation value => value ≠ .known .none ∧ value.Canonical
  | .avatar value => Avatar.IsFingerprint value
  | _ => True

/-- Whether a value may be set for the local persona. -/
def Persona.Edit.Sound : Persona.Edit → Prop
  | .avatar value => Avatar.IsFingerprint value
  | _ => True

/-- Only single people may be edited. -/
theorem Friend.WellFormed.edit {id : AccountId} {friend : Friend} (wf : friend.WellFormed id)
    (individual : id.isIndividual) {edit : Edit} (sound : edit.Sound) :
    (friend.edit edit).WellFormed id := by
  have bare (edited : Friend) (other : id.isIndividual = false) : edited.Bare :=
    absurd individual (Bool.eq_false_iff.mp other)
  cases edit with
  | relation value => exact { wf with related := sound.1, canonical := sound.2, bare := bare _ }
  | avatar value => exact { wf with avatar := .inr sound, bare := bare _ }
  | _ => exact { wf with bare := bare _ }

theorem Friend.WellFormed.editAll {id : AccountId} {friend : Friend} (wf : friend.WellFormed id)
    (individual : id.isIndividual) {edits : List Edit} (sound : ∀ edit ∈ edits, edit.Sound) :
    (friend.editAll edits).WellFormed id :=
  List.foldlRecOn edits Friend.edit wf fun _ kept edit edit_mem =>
    kept.edit individual (sound edit edit_mem)

theorem Clan.WellFormed.edit {id : AccountId} {clan : Clan} (wf : clan.WellFormed id)
    {edit : Edit} (sound : edit.Sound) : (clan.edit edit).WellFormed id := by
  cases edit with
  | relation value => exact { wf with related := sound.1, canonical := sound.2 }
  | avatar value => exact { wf with avatar := .inr sound }
  | _ => exact { wf with }

theorem Clan.WellFormed.editAll {id : AccountId} {clan : Clan} (wf : clan.WellFormed id)
    {edits : List Edit} (sound : ∀ edit ∈ edits, edit.Sound) :
    (clan.editAll edits).WellFormed id :=
  List.foldlRecOn edits Clan.edit wf fun _ kept edit edit_mem => kept.edit (sound edit edit_mem)

theorem Persona.WellFormed.edit {persona : Persona} (wf : persona.WellFormed) {edit : Edit}
    (sound : edit.Sound) : (persona.edit edit).WellFormed := by
  cases edit with
  | avatar value => exact { avatar := .inr sound }
  | _ => exact { wf with }

theorem Persona.WellFormed.editAll {persona : Persona} (wf : persona.WellFormed)
    {edits : List Edit} (sound : ∀ edit ∈ edits, edit.Sound) : (persona.editAll edits).WellFormed :=
  List.foldlRecOn edits Persona.edit wf fun _ kept edit edit_mem => kept.edit (sound edit edit_mem)

theorem Room.WellFormed.seat {id : AccountId} {room : Room} (wf : room.WellFormed id)
    (member : Member) : (room.seat member).WellFormed id where
  id_eq := wf.id_eq
  members := wf.members.insert rfl

theorem Room.WellFormed.dismiss {id : AccountId} {room : Room} (wf : room.WellFormed id)
    (member : AccountId) : (room.dismiss member).WellFormed id where
  id_eq := wf.id_eq
  members := wf.members.erase member

/-! ### Changes -/

/-- Whether what a change brings into a store is well-formed. -/
def Change.Sound : Change → Prop
  | .addFriend friend => friend.WellFormed friend.id
  | .editFriend id edits => id.isIndividual ∧ ∀ edit ∈ edits, edit.Sound
  | .addClan clan => clan.WellFormed clan.id
  | .editClan _ edits => ∀ edit ∈ edits, edit.Sound
  | .addRoom room => room.WellFormed room.id
  | .editPersona edits => ∀ edit ∈ edits, edit.Sound
  | .removeFriend _ | .removeClan _ | .removeRoom _ | .enterRoom .. | .seat .. | .dismiss .. => True

namespace Store

/-- Rosters stay keyed by their members as long as no room is added with another sort of roster. -/
theorem rosters_apply {store : Store} (rosters : store.rooms.All Room.WellFormed) {change : Change}
    (added : ∀ room, change = .addRoom room → room.WellFormed room.id) :
    (store.apply change).rooms.All Room.WellFormed := by
  cases change with
  | addRoom room => exact rosters.insertIfNew (added room rfl)
  | removeRoom id => exact rosters.erase id
  | enterRoom id clan => exact rosters.insert (.new id clan)
  | seat room member => exact rosters.upsert (.new room default) fun _ kept => kept.seat member
  | dismiss room member => exact rosters.modify fun _ kept => kept.dismiss member
  | _ => exact rosters

theorem rosters_applyAll {store : Store} (rosters : store.rooms.All Room.WellFormed)
    {changes : List Change} (added : ∀ room, .addRoom room ∈ changes → room.WellFormed room.id) :
    (store.applyAll changes).rooms.All Room.WellFormed := by
  apply List.foldlRecOn (motive := fun reached => reached.rooms.All Room.WellFormed) changes apply
    rosters
  intro reached kept change change_mem
  apply rosters_apply kept
  rintro room rfl
  exact added room change_mem

/-- A sound change keeps a store well-formed. -/
theorem WellFormed.apply {store : Store} (wf : store.WellFormed) {change : Change}
    (sound : change.Sound) : (store.apply change).WellFormed := by
  have rooms : (store.apply change).rooms.All Room.WellFormed := by
    apply rosters_apply wf.rooms
    rintro room rfl
    exact sound
  cases change with
  | addFriend friend => exact { wf with friends := wf.friends.insertIfNew sound }
  | removeFriend id => exact { wf with friends := wf.friends.erase id }
  | editFriend id edits =>
      have friends : (store.friends.modify id (·.editAll edits)).All Friend.WellFormed := by
        apply wf.friends.modify
        intro friend kept
        exact kept.editAll sound.1 sound.2
      exact { wf with friends }
  | addClan clan => exact { wf with clans := wf.clans.insertIfNew sound }
  | removeClan id => exact { wf with clans := wf.clans.erase id }
  | editClan id edits =>
      have clans : (store.clans.modify id (·.editAll edits)).All Clan.WellFormed := by
        apply wf.clans.modify
        intro clan kept
        exact kept.editAll sound
      exact { wf with clans }
  | addRoom room | removeRoom id | enterRoom id clan | seat room member | dismiss room member =>
      exact { wf with rooms }
  | editPersona edits => exact { wf with persona := wf.persona.editAll sound }

theorem WellFormed.applyAll {store : Store} (wf : store.WellFormed) {changes : List Change}
    (sound : ∀ change ∈ changes, change.Sound) : (store.applyAll changes).WellFormed :=
  List.foldlRecOn changes Store.apply wf fun _ kept change change_mem =>
    kept.apply (sound change change_mem)

end Store

end Presence
