import Presence.Proofs.Session.Changes
import Presence.Proofs.Store.Repetition

/-!
# Messages that arrive twice

A message that is delivered a second time, right after the first, changes nothing more and is
answered in the same way, `Session.handle_again`. Why the store settles depends on the message:
friend lists add and remove, persona lists and clan states edit, a room entry forgets the room that
was there before, and a report about a member is a single change.
-/

namespace Presence

theorem Table.insert_insert {α : Type} (table : Table α) (id : AccountId) (first second : α) :
    (table.insert id first).insert id second = table.insert id second := by
  ext1 other
  simp only [get?_insert]
  split <;> rfl

theorem Table.erase_erase {α : Type} (table : Table α) (id : AccountId) :
    (table.erase id).erase id = table.erase id := by
  ext1 other
  simp only [get?_erase]
  split <;> rfl

namespace Change

theorem onRoom_seat_again (room id : AccountId) (member : Member) (held : Option Room) :
    (seat room member).onRoom id ((seat room member).onRoom id held) =
      (seat room member).onRoom id held := by
  simp only [onRoom]
  split
  · simp only [Option.getD_some, Room.seat, Table.insert_insert]
  · rfl

theorem onRoom_dismiss_again (room id member : AccountId) (held : Option Room) :
    (dismiss room member).onRoom id ((dismiss room member).onRoom id held) =
      (dismiss room member).onRoom id held := by
  simp only [onRoom]
  split
  · rw [Option.map_map]
    congr 1
    funext found
    simp only [Function.comp_apply, Room.dismiss, Table.erase_erase]
  · rfl

end Change

/-! ### The changes of one message -/

theorem FriendListEntry.registers_change (entry : FriendListEntry) : entry.change.registers := by
  rcases entry.change_cases with ⟨_, told | ⟨_, told⟩⟩ | ⟨_, told | ⟨_, told⟩⟩ <;> rw [told] <;> rfl

theorem PersonaRecord.edits_change? {self : AccountId} {fields : FlagSet PersonaField}
    {record : PersonaRecord} {change : Change} (told : record.change? self fields = some change) :
    change.edits := by
  rcases change?_cases told with ⟨_, rfl⟩ | ⟨_, rfl⟩ | ⟨_, rfl⟩ <;> rfl

/-- Rooms forget what they were before they were entered. -/
theorem RoomEntry.settles_onRoom (entry : RoomEntry) (id : AccountId) :
    Settles (Change.onRoom id) entry.changes := by
  by_cases room_eq : entry.room = id
  · apply settles_of_constant
    intro first second
    simp only [changes, List.foldl_cons, Change.onRoom, if_pos room_eq]
  · apply settles_of_unmoved
    intro held change change_mem
    rcases mem_changes change_mem with rfl | ⟨member, rfl⟩
    · exact if_neg room_eq
    · exact if_neg room_eq

theorem StateChange.settles_onRoom (room : AccountId) (change : StateChange) (id : AccountId) :
    Settles (Change.onRoom id) (change.changes room) := by
  rcases change.changes_cases room with nothing | ⟨member, _, seats⟩ | dismisses
  · rw [nothing]
    exact fun held => rfl
  · rw [seats]
    exact settles_singleton (Change.onRoom_seat_again room id member)
  · rw [dismisses]
    exact settles_singleton (Change.onRoom_dismiss_again room id change.actedOn)

theorem MemberReport.settles_onRoom (report : MemberReport) (id : AccountId) :
    Settles (Change.onRoom id)
      (report.change?.toList.flatMap (StateChange.changes report.room)) := by
  cases report.change? with
  | none => exact fun held => rfl
  | some change =>
      rw [Option.toList_some, List.flatMap_singleton]
      exact change.settles_onRoom report.room id

/-- The changes of one message, made twice, are the changes made once. -/
theorem Message.applyAll_changes_again (self : AccountId) (message : Message) (store : Store) :
    (store.applyAll (message.changes self)).applyAll (message.changes self) =
      store.applyAll (message.changes self) := by
  have about_rooms (in_rooms : message.inRooms)
      (settles : ∀ id, Settles (Change.onRoom id) (message.changes self)) :
      (store.applyAll (message.changes self)).applyAll (message.changes self) =
        store.applyAll (message.changes self) := by
    have in_rooms_of_mem (change : Change) (change_mem : change ∈ message.changes self) :
        change.inRooms := by rw [inRooms_changes change_mem, in_rooms]
    refine Store.applyAll_again ?_ ?_ settles store
    · intro id
      apply settles_of_unmoved
      intro friend change change_mem
      exact Change.onFriend_of_inRooms (in_rooms_of_mem change change_mem) id friend
    · intro id
      apply settles_of_unmoved
      intro clan change change_mem
      exact Change.onClan_of_inRooms (in_rooms_of_mem change change_mem) id clan
  cases message with
  | friendList list =>
      apply Store.applyAll_registers_again
      intro change change_mem
      rcases List.mem_map.mp change_mem with ⟨entry, _, rfl⟩
      exact entry.registers_change
  | personaList list =>
      apply Store.applyAll_edits_again
      intro change change_mem
      rcases List.mem_filterMap.mp change_mem with ⟨record, _, told⟩
      exact PersonaRecord.edits_change? told
  | clanState state =>
      apply Store.applyAll_edits_again
      intro change change_mem
      rw [List.mem_singleton.mp change_mem]
      rfl
  | roomEntry entry => exact about_rooms rfl entry.settles_onRoom
  | memberReport report => exact about_rooms rfl report.settles_onRoom
  | _ => rfl

namespace Session

/-- What becomes of a message depends on the settings and the local account alone. -/
theorem handle_result_congr {first second : Session}
    (settings_eq : first.settings = second.settings) (self_eq : first.self = second.self)
    (message : Message) :
    (first.handle message).1 = (second.handle message).1 := by
  simp only [handle, settings_eq, self_eq]

/-- Redelivery is idempotent: a message that arrives twice in a row leaves the store as it was left
by the first arrival, and is answered as it was then. -/
theorem handle_again (session : Session) (message : Message) :
    let first := session.handle message
    let second := first.2.handle message
    second.2.store = first.2.store ∧ second.1 = first.1 := by
  intro first second
  constructor
  · have first_store : first.2.store =
        session.store.applyAll (message.changes session.self) := handle_store ..
    have second_store : second.2.store =
        first.2.store.applyAll (message.changes first.2.self) := handle_store ..
    rw [second_store, first_store, handle_self]
    exact message.applyAll_changes_again session.self session.store
  · exact handle_result_congr (handle_settings session message) (handle_self session message)
      message

end Session

end Presence
