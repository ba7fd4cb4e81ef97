import Mathlib.Logic.Function.Basic
import Presence.Proofs.Store.Entries

/-!
# Setters and fields

A setter gives one field of one friend, or of one clan, a new value. What can be read from the
record is then what could be read before, updated at that field, `Friend.read_edit` and
`Clan.read_edit`. In the table nobody else is any different, and nobody comes or goes,
`Table.SetsField`. Several fields are set by one edit after another, `Store.apply_editFriend` and
`Store.apply_editClan`.
-/

namespace Presence

/-! ### Tables -/

namespace Table

variable {α : Type}

theorem modify_modify (table : Table α) (id : AccountId) (first second : α → α) :
    (table.modify id first).modify id second =
      table.modify id fun value => second (first value) := by
  ext1 other
  simp only [get?_modify]
  split <;> simp [Function.comp_def]

theorem modify_eq_self (table : Table α) (id : AccountId) :
    (table.modify id fun value => value) = table := by
  ext1 other
  rw [get?_modify]
  split
  · next id_eq => simp [id_eq]
  · rfl

theorem modify_of_absent {table : Table α} {id : AccountId} (absent : table.get? id = none)
    (change : α → α) : table.modify id change = table := by
  ext1 other
  rw [get?_modify]
  split
  · next id_eq => simp [← id_eq, absent]
  · rfl

/-- A table after a field of a record was set, if the record is there. Nothing is known about a
record but the key and what can be read from it. -/
structure SetsField {Field : Type} [DecidableEq Field] {Value : Field → Type} (key : α → AccountId)
    (read : α → (field : Field) → Value field) (id : AccountId) (field : Field)
    (value : Value field) (before after : Table α) : Prop where
  keys_eq : ∀ other, after.contains other = before.contains other
  elsewhere : ∀ other, other ≠ id → after.get? other = before.get? other
  here : ∀ record, before.get? id = some record → ∀ changed,
    after.get? id = some changed ↔
      key changed = key record ∧ read changed = Function.update (read record) field value

theorem setsField_modify {Field : Type} [DecidableEq Field] {Value : Field → Type}
    {key : α → AccountId} {read : α → (field : Field) → Value field} {change : α → α}
    {field : Field} {value : Value field}
    (ext : ∀ first second, key first = key second → read first = read second → first = second)
    (key_eq : ∀ record, key (change record) = key record)
    (read_eq : ∀ record, read (change record) = Function.update (read record) field value)
    (table : Table α) (id : AccountId) :
    SetsField key read id field value table (table.modify id change) where
  keys_eq other := by
    simp only [contains, get?_modify]
    split
    · next id_eq => rw [id_eq, Option.isSome_map]
    · rfl
  elsewhere other other_ne := by
    rw [get?_modify, if_neg other_ne.symm]
  here record found changed := by
    rw [get?_modify, if_pos rfl, found, Option.map_some, Option.some_inj]
    constructor
    · rintro rfl
      exact ⟨key_eq record, read_eq record⟩
    · rintro ⟨key_changed, read_changed⟩
      apply ext
      · rw [key_eq, key_changed]
      · rw [read_eq, read_changed]

end Table

/-! ### Records -/

namespace Friend

/-- A field of a friend; the account is none of them. -/
inductive Field where
  | relation
  | name
  | avatar
  | status
  | traits
  | appId
  | gameId
  | gameName
deriving DecidableEq

def Field.Value : Field → Type
  | .relation => Wire FriendRelation
  | .name | .avatar | .gameName => String
  | .status => Wire Status
  | .traits => FlagSet PersonaTrait
  | .appId => UInt32
  | .gameId => UInt64

/-- What stands in a field. -/
def read (friend : Friend) : (field : Field) → field.Value
  | .relation => friend.relation
  | .name => friend.name
  | .avatar => friend.avatar
  | .status => friend.status
  | .traits => friend.traits
  | .appId => friend.appId
  | .gameId => friend.gameId
  | .gameName => friend.gameName

def Edit.field : Edit → Field
  | .relation _ => .relation
  | .name _ => .name
  | .avatar _ => .avatar
  | .status _ => .status
  | .traits _ => .traits
  | .appId _ => .appId
  | .gameId _ => .gameId
  | .gameName _ => .gameName

def Edit.value : (edit : Edit) → edit.field.Value
  | .relation value => value
  | .name value | .avatar value | .gameName value => value
  | .status value => value
  | .traits value => value
  | .appId value => value
  | .gameId value => value

theorem read_edit (friend : Friend) (edit : Edit) :
    (friend.edit edit).read = Function.update friend.read edit.field edit.value := by
  funext field
  cases edit <;> cases field <;> rfl

theorem id_edit (friend : Friend) (edit : Edit) : (friend.edit edit).id = friend.id := by
  cases edit <;> rfl

theorem id_editAll (friend : Friend) (edits : List Edit) :
    (friend.editAll edits).id = friend.id := by
  apply List.foldlRecOn (motive := fun edited => edited.id = friend.id) edits edit rfl
  intro edited id_eq edit _
  rw [id_edit, id_eq]

/-- Nothing is known about a friend but the fields. -/
theorem ext_read {first second : Friend} (id_eq : first.id = second.id)
    (read_eq : first.read = second.read) : first = second := by
  have field_eq := congrFun read_eq
  cases first
  cases second
  simp only [mk.injEq]
  exact ⟨id_eq, field_eq .relation, field_eq .name, field_eq .avatar, field_eq .status,
    field_eq .traits, field_eq .appId, field_eq .gameId, field_eq .gameName⟩

end Friend

namespace Clan

/-- A field of a clan; the account is none of them. -/
inductive Field where
  | relation
  | name
  | avatar
  | total
  | online
  | chatting
  | inGame
deriving DecidableEq

def Field.Value : Field → Type
  | .relation => Wire ClanRelation
  | .name | .avatar => String
  | .total | .online | .chatting | .inGame => UInt32

/-- What stands in a field. -/
def read (clan : Clan) : (field : Field) → field.Value
  | .relation => clan.relation
  | .name => clan.name
  | .avatar => clan.avatar
  | .total => clan.total
  | .online => clan.online
  | .chatting => clan.chatting
  | .inGame => clan.inGame

def Edit.field : Edit → Field
  | .relation _ => .relation
  | .name _ => .name
  | .avatar _ => .avatar
  | .total _ => .total
  | .online _ => .online
  | .chatting _ => .chatting
  | .inGame _ => .inGame

def Edit.value : (edit : Edit) → edit.field.Value
  | .relation value => value
  | .name value | .avatar value => value
  | .total value | .online value | .chatting value | .inGame value => value

theorem read_edit (clan : Clan) (edit : Edit) :
    (clan.edit edit).read = Function.update clan.read edit.field edit.value := by
  funext field
  cases edit <;> cases field <;> rfl

theorem id_edit (clan : Clan) (edit : Edit) : (clan.edit edit).id = clan.id := by
  cases edit <;> rfl

theorem id_editAll (clan : Clan) (edits : List Edit) : (clan.editAll edits).id = clan.id := by
  apply List.foldlRecOn (motive := fun edited => edited.id = clan.id) edits edit rfl
  intro edited id_eq edit _
  rw [id_edit, id_eq]

/-- Nothing is known about a clan but the fields. -/
theorem ext_read {first second : Clan} (id_eq : first.id = second.id)
    (read_eq : first.read = second.read) : first = second := by
  have field_eq := congrFun read_eq
  cases first
  cases second
  simp only [mk.injEq]
  exact ⟨id_eq, field_eq .relation, field_eq .name, field_eq .avatar, field_eq .total,
    field_eq .online, field_eq .chatting, field_eq .inGame⟩

end Clan

/-! ### Setters -/

namespace Change

/-- One field of a friend is set. -/
def setFriend (id : AccountId) (edit : Friend.Edit) : Change := .editFriend id [edit]

/-- One field of a clan is set. -/
def setClan (id : AccountId) (edit : Clan.Edit) : Change := .editClan id [edit]

end Change

namespace Store

variable (store : Store) (id : AccountId)

theorem apply_editFriend (edits : List Friend.Edit) :
    store.apply (.editFriend id edits) = store.applyAll (edits.map (Change.setFriend id)) := by
  induction edits generalizing store with
  | nil => simp only [apply, Friend.editAll, List.foldl_nil, Table.modify_eq_self, List.map_nil,
      applyAll_nil]
  | cons edit rest ih =>
      rw [List.map_cons, applyAll_cons, ← ih]
      simp only [apply, Change.setFriend, Table.modify_modify]
      rfl

theorem apply_editClan (edits : List Clan.Edit) :
    store.apply (.editClan id edits) = store.applyAll (edits.map (Change.setClan id)) := by
  induction edits generalizing store with
  | nil => simp only [apply, Clan.editAll, List.foldl_nil, Table.modify_eq_self, List.map_nil,
      applyAll_nil]
  | cons edit rest ih =>
      rw [List.map_cons, applyAll_cons, ← ih]
      simp only [apply, Change.setClan, Table.modify_modify]
      rfl

theorem apply_editFriend_of_absent {store : Store} {id : AccountId}
    (absent : store.friends.get? id = none) (edits : List Friend.Edit) :
    store.apply (.editFriend id edits) = store := by
  simp only [apply, Table.modify_of_absent absent]

theorem apply_editClan_of_absent {store : Store} {id : AccountId}
    (absent : store.clans.get? id = none) (edits : List Clan.Edit) :
    store.apply (.editClan id edits) = store := by
  simp only [apply, Table.modify_of_absent absent]

theorem setsField_friend (edit : Friend.Edit) :
    ∃ friends, store.apply (.setFriend id edit) = { store with friends } ∧
      Table.SetsField Friend.id Friend.read id edit.field edit.value store.friends friends := by
  refine ⟨_, rfl, ?_⟩
  apply Table.setsField_modify
  · exact fun _ _ => Friend.ext_read
  · exact fun friend => friend.id_edit edit
  · exact fun friend => friend.read_edit edit

theorem setsField_clan (edit : Clan.Edit) :
    ∃ clans, store.apply (.setClan id edit) = { store with clans } ∧
      Table.SetsField Clan.id Clan.read id edit.field edit.value store.clans clans := by
  refine ⟨_, rfl, ?_⟩
  apply Table.setsField_modify
  · exact fun _ _ => Clan.ext_read
  · exact fun clan => clan.id_edit edit
  · exact fun clan => clan.read_edit edit

end Store

end Presence
