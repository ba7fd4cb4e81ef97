import Presence.Proofs.Rooms.Loading
import Presence.Proofs.Session.Redelivery

/-!
# Messages that have nothing to do with each other

The order in which two messages arrive does not matter if they are about different accounts, or if
they report state changes of different members of one room, `Session.interchangeable_of_apart`. A
change concerns one account, `Change.account`, and steps that leave a state alone can be moved past
any others.
-/

namespace Presence

variable {α σ : Type}

/-- The steps of two lists can be taken in either order. -/
def Interchange (step : σ → α → σ) (first second : List α) : Prop :=
  ∀ state, second.foldl step (first.foldl step state) = first.foldl step (second.foldl step state)

theorem interchange_of_unmoved {step : σ → α → σ} {first second : List α}
    (unmoved : (∀ state, ∀ item ∈ first, step state item = state) ∨
      ∀ state, ∀ item ∈ second, step state item = state) : Interchange step first second := by
  intro state
  rcases unmoved with first_unmoved | second_unmoved
  · rw [foldl_unmoved first_unmoved, foldl_unmoved first_unmoved]
  · rw [foldl_unmoved second_unmoved, foldl_unmoved second_unmoved]

/-- Changes can be made in either order if that is so for every entry and for the local persona. -/
theorem Store.applyAll_comm {first second : List Change}
    (friends_comm : ∀ id, Interchange (Change.onFriend id) first second)
    (clans_comm : ∀ id, Interchange (Change.onClan id) first second)
    (rooms_comm : ∀ id, Interchange (Change.onRoom id) first second)
    (persona_comm : Interchange Change.onPersona first second) (store : Store) :
    (store.applyAll first).applyAll second = (store.applyAll second).applyAll first := by
  apply ext_entries
  · intro id
    simp only [friends_applyAll, friends_comm id _]
  · intro id
    simp only [clans_applyAll, clans_comm id _]
  · intro id
    simp only [rooms_applyAll, rooms_comm id _]
  · simp only [persona_applyAll, persona_comm _]

namespace Change

/-- The account that a change concerns in a session logged in as `self`. -/
def account (self : AccountId) : Change → AccountId
  | .addFriend friend => friend.id
  | .addClan clan => clan.id
  | .addRoom room => room.id
  | .removeFriend id | .removeClan id | .removeRoom id => id
  | .editFriend id _ | .editClan id _ => id
  | .enterRoom room _ | .seat room _ | .dismiss room _ => room
  | .editPersona _ => self

variable {self id : AccountId} {change : Change}

theorem onFriend_of_account_ne (elsewhere : change.account self ≠ id) (friend : Option Friend) :
    change.onFriend id friend = friend := by
  cases change <;> first | rfl | exact if_neg elsewhere

theorem onClan_of_account_ne (elsewhere : change.account self ≠ id) (clan : Option Clan) :
    change.onClan id clan = clan := by
  cases change <;> first | rfl | exact if_neg elsewhere

theorem onRoom_of_account_ne (elsewhere : change.account self ≠ id) (room : Option Room) :
    change.onRoom id room = room := by
  cases change <;> first | rfl | exact if_neg elsewhere

theorem onPersona_of_account_ne (elsewhere : change.account self ≠ self) (persona : Persona) :
    change.onPersona persona = persona := by
  cases change <;> first | rfl | exact absurd rfl elsewhere

/-- Whether no account is concerned by a change of both lists. -/
def Apart (self : AccountId) (first second : List Change) : Prop :=
  ∀ change ∈ first, ∀ other ∈ second, change.account self ≠ other.account self

/-- Changes that are apart do not meet in any entry. -/
theorem Apart.interchange {step : σ → Change → σ} {first second : List Change}
    (apart : Apart self first second)
    (elsewhere : ∀ state change, Change.account self change ≠ id → step state change = state) :
    Interchange step first second := by
  apply interchange_of_unmoved
  by_cases concerned : ∃ change ∈ first, change.account self = id
  · rcases concerned with ⟨change, change_mem, account_eq⟩
    right
    intro state other other_mem
    apply elsewhere
    rw [← account_eq]
    exact (apart change change_mem other other_mem).symm
  · left
    intro state change change_mem
    apply elsewhere
    intro account_eq
    exact concerned ⟨change, change_mem, account_eq⟩

end Change

theorem Store.applyAll_comm_of_apart {self : AccountId} {first second : List Change}
    (apart : Change.Apart self first second) (store : Store) :
    (store.applyAll first).applyAll second = (store.applyAll second).applyAll first := by
  apply applyAll_comm
  · intro id
    apply apart.interchange
    intro friend change elsewhere
    exact Change.onFriend_of_account_ne elsewhere friend
  · intro id
    apply apart.interchange
    intro clan change elsewhere
    exact Change.onClan_of_account_ne elsewhere clan
  · intro id
    apply apart.interchange
    intro room change elsewhere
    exact Change.onRoom_of_account_ne elsewhere room
  · apply apart.interchange
    intro persona change elsewhere
    exact Change.onPersona_of_account_ne elsewhere persona

/-! ### The accounts of a message -/

namespace Message

/-- The accounts that a message is about. -/
def touched : Message → List AccountId
  | .friendList list => list.entries.map (·.id)
  | .personaList list => list.records.map (·.id)
  | .clanState state => [state.id]
  | .roomEntry entry => [entry.room]
  | .memberReport report => [report.room]
  | _ => []

end Message

theorem FriendListEntry.account_change (self : AccountId) (entry : FriendListEntry) :
    entry.change.account self = entry.id := by
  rcases entry.change_cases with ⟨_, told | ⟨_, told⟩⟩ | ⟨_, told | ⟨_, told⟩⟩ <;> rw [told] <;> rfl

theorem PersonaRecord.account_change? {self : AccountId} {fields : FlagSet PersonaField}
    {record : PersonaRecord} {change : Change} (told : record.change? self fields = some change) :
    change.account self = record.id := by
  rcases change?_cases told with ⟨is_self, rfl⟩ | ⟨_, rfl⟩ | ⟨_, rfl⟩
  · exact is_self.symm
  · rfl
  · rfl

theorem Message.account_mem_touched {self : AccountId} {message : Message} {change : Change}
    (change_mem : change ∈ message.changes self) : change.account self ∈ message.touched := by
  cases message with
  | friendList list =>
      rcases List.mem_map.mp change_mem with ⟨entry, entry_mem, rfl⟩
      rw [FriendListEntry.account_change]
      exact List.mem_map_of_mem entry_mem
  | personaList list =>
      rcases List.mem_filterMap.mp change_mem with ⟨record, record_mem, told⟩
      rw [PersonaRecord.account_change? told]
      exact List.mem_map_of_mem record_mem
  | clanState state =>
      rw [List.mem_singleton.mp change_mem]
      exact List.mem_singleton_self _
  | roomEntry entry =>
      rcases RoomEntry.mem_changes change_mem with rfl | ⟨member, rfl⟩
      · exact List.mem_singleton_self _
      · exact List.mem_singleton_self _
  | memberReport report =>
      rcases MemberReport.mem_changes change_mem with ⟨member, rfl⟩ | ⟨id, rfl⟩
      · exact List.mem_singleton_self _
      · exact List.mem_singleton_self _
  | _ => cases change_mem

theorem Message.apart_changes {self : AccountId} {first second : Message}
    (apart : List.Disjoint first.touched second.touched) :
    Change.Apart self (first.changes self) (second.changes self) := by
  intro change change_mem other other_mem account_eq
  have first_touched := account_mem_touched change_mem
  have second_touched := account_mem_touched other_mem
  exact apart first_touched (account_eq ▸ second_touched)

/-! ### Two members of one room -/

theorem Table.insert_comm {α : Type} (table : Table α) {id other : AccountId} (ne : id ≠ other)
    (value otherValue : α) :
    (table.insert id value).insert other otherValue =
      (table.insert other otherValue).insert id value := by
  ext1 key
  simp only [get?_insert]
  by_cases id_eq : id = key <;> by_cases other_eq : other = key <;> simp [id_eq, other_eq]
  exact absurd (id_eq.trans other_eq.symm) ne

theorem Table.erase_comm {α : Type} (table : Table α) (id other : AccountId) :
    (table.erase id).erase other = (table.erase other).erase id := by
  ext1 key
  simp only [get?_erase]
  split <;> split <;> rfl

theorem Table.erase_insert {α : Type} (table : Table α) {id other : AccountId} (ne : id ≠ other)
    (value : α) : (table.insert id value).erase other = (table.erase other).insert id value := by
  ext1 key
  simp only [get?_erase, get?_insert]
  by_cases id_eq : id = key <;> by_cases other_eq : other = key <;> simp [id_eq, other_eq]
  exact absurd (id_eq.trans other_eq.symm) ne

namespace Room

variable (room : Room)

theorem seat_seat {first second : Member} (ne : first.id ≠ second.id) :
    (room.seat first).seat second = (room.seat second).seat first := by
  simp only [seat, Table.insert_comm _ ne]

theorem dismiss_dismiss (first second : AccountId) :
    (room.dismiss first).dismiss second = (room.dismiss second).dismiss first := by
  simp only [dismiss, Table.erase_comm _ first]

theorem dismiss_seat {member : Member} {other : AccountId} (ne : member.id ≠ other) :
    (room.seat member).dismiss other = (room.dismiss other).seat member := by
  simp only [seat, dismiss, Table.erase_insert _ ne]

end Room

namespace Change

variable {room id : AccountId} {held : Option Room}

theorem onRoom_seat_seat {first second : Member} (ne : first.id ≠ second.id) :
    (seat room second).onRoom id ((seat room first).onRoom id held) =
      (seat room first).onRoom id ((seat room second).onRoom id held) := by
  simp only [onRoom]
  split
  · rw [Option.getD_some, Option.getD_some, Room.seat_seat _ ne]
  · rfl

theorem onRoom_dismiss_dismiss (first second : AccountId) :
    (dismiss room second).onRoom id ((dismiss room first).onRoom id held) =
      (dismiss room first).onRoom id ((dismiss room second).onRoom id held) := by
  simp only [onRoom]
  split
  · simp only [Option.map_map, Function.comp_def, Room.dismiss_dismiss _ first]
  · rfl

/-- A member who enters a room that has not been heard of is alone in it, so that nobody else need
be dismissed. -/
theorem onRoom_dismiss_seat {member : Member} {other : AccountId} (ne : member.id ≠ other) :
    (dismiss room other).onRoom id ((seat room member).onRoom id held) =
      (seat room member).onRoom id ((dismiss room other).onRoom id held) := by
  simp only [onRoom]
  split
  · rw [Option.map_some, Room.dismiss_seat _ ne]
    cases held <;> rfl
  · rfl

end Change

/-- State changes of different members of a room do not meet. -/
theorem StateChange.interchange_onRoom (room id : AccountId) {first second : StateChange}
    (ne : first.actedOn ≠ second.actedOn) :
    Interchange (Change.onRoom id) (first.changes room) (second.changes room) := by
  intro held
  rcases first.changes_cases room with nothing | ⟨member, member_id, seats⟩ | dismisses
  · rw [nothing]
    rfl
  · rw [seats]
    rcases second.changes_cases room with nothing | ⟨other, other_id, other_seats⟩ | dismisses
    · rw [nothing]
      rfl
    · rw [other_seats]
      exact Change.onRoom_seat_seat (by rwa [member_id, other_id])
    · rw [dismisses]
      exact Change.onRoom_dismiss_seat (by rwa [member_id])
  · rw [dismisses]
    rcases second.changes_cases room with nothing | ⟨other, other_id, other_seats⟩ | dismisses
    · rw [nothing]
      rfl
    · rw [other_seats]
      exact (Change.onRoom_dismiss_seat (by rw [other_id]; exact ne.symm)).symm
    · rw [dismisses]
      exact Change.onRoom_dismiss_dismiss first.actedOn second.actedOn

theorem Store.applyAll_comm_of_members {room : AccountId} {first second : StateChange}
    (ne : first.actedOn ≠ second.actedOn) (store : Store) :
    (store.applyAll (first.changes room)).applyAll (second.changes room) =
      (store.applyAll (second.changes room)).applyAll (first.changes room) := by
  have in_rooms (change : Change) (change_mem : change ∈ first.changes room) : change.inRooms := by
    rcases StateChange.mem_changes change_mem with ⟨member, rfl⟩ | rfl <;> rfl
  apply applyAll_comm
  · intro id
    refine interchange_of_unmoved (.inl fun friend change change_mem => ?_)
    exact Change.onFriend_of_inRooms (in_rooms change change_mem) id friend
  · intro id
    refine interchange_of_unmoved (.inl fun clan change change_mem => ?_)
    exact Change.onClan_of_inRooms (in_rooms change change_mem) id clan
  · intro id
    exact StateChange.interchange_onRoom room id ne
  · refine interchange_of_unmoved (.inl fun persona change change_mem => ?_)
    exact Change.onPersona_of_inRooms (in_rooms change change_mem) persona

/-! ### Handling in either order -/

namespace Session

/-- Two messages are interchangeable in a session if both orders leave the same store, and each
message is answered in the same way in both. -/
structure Interchangeable (session : Session) (first second : Message) : Prop where
  store_eq : ((session.handle first).2.handle second).2.store =
    ((session.handle second).2.handle first).2.store
  first_answer : ((session.handle second).2.handle first).1 = (session.handle first).1
  second_answer : ((session.handle first).2.handle second).1 = (session.handle second).1

theorem interchangeable_of_changes {session : Session} {first second : Message}
    (changes_comm : ∀ store : Store,
      (store.applyAll (first.changes session.self)).applyAll (second.changes session.self) =
        (store.applyAll (second.changes session.self)).applyAll (first.changes session.self)) :
    session.Interchangeable first second where
  store_eq := by
    simp only [handle_store, handle_self]
    exact changes_comm session.store
  first_answer :=
    handle_result_congr (handle_settings session second) (handle_self session second) first
  second_answer :=
    handle_result_congr (handle_settings session first) (handle_self session first) second

theorem changes_memberReport {self : AccountId} {report : MemberReport} {change : StateChange}
    (told : report.change? = some change) :
    (Message.memberReport report).changes self = change.changes report.room := by
  rw [Message.changes, told, Option.toList_some, List.flatMap_singleton]

/-- Messages about different accounts are interchangeable, and so are two reports on different
members of one room, whether or not the room has been heard of. -/
theorem interchangeable_of_apart (session : Session) :
    (∀ first second : Message, List.Disjoint first.touched second.touched →
      session.Interchangeable first second) ∧
    ∀ (first second : MemberReport) (change other : StateChange), first.room = second.room →
      first.change? = some change → second.change? = some other →
      change.actedOn ≠ other.actedOn →
        session.Interchangeable (.memberReport first) (.memberReport second) := by
  constructor
  · intro first second apart
    apply interchangeable_of_changes
    exact Store.applyAll_comm_of_apart (Message.apart_changes apart)
  · intro first second change other room_eq first_told second_told ne
    apply interchangeable_of_changes
    rw [changes_memberReport first_told, changes_memberReport second_told, room_eq]
    exact Store.applyAll_comm_of_members ne

/-- A clan that is listed and a friend who is sighted do not meet; neither do a member who enters a
room not heard of and another who leaves it. -/
theorem interchangeable_of_newcomers :
    let friend : AccountId := ⟨0x110000100000002⟩
    let known : Friend := { id := friend, relation := .known .friend }
    let session : Session :=
      { self := ⟨0x110000100000001⟩, store := { friends := Table.insert ∅ friend known } }
    let listing : Message := .friendList ⟨true, [⟨⟨0x170000000000001⟩, 3⟩]⟩
    let sighting : Message := .personaList
      ⟨.ofList [.playerName], [{ (default : PersonaRecord) with id := friend, name := "a" }]⟩
    let entering : StateChange := .entering ⟨⟨7⟩, ⟨8⟩, ⟨0⟩⟩ ⟨7⟩
    let leaving : StateChange := { actedOn := ⟨9⟩, change := .known .left, actedBy := ⟨9⟩ }
    let arrival : MemberReport := ⟨⟨1⟩, .known .stateChange, entering.bytes⟩
    let departure : MemberReport := ⟨⟨1⟩, .known .stateChange, leaving.bytes⟩
    (List.Disjoint listing.touched sighting.touched ∧
      session.Interchangeable listing sighting ∧
      ((session.handle sighting).2.store.friends.get? friend).map (·.name) = some "a") ∧
    arrival.change? = some entering ∧ departure.change? = some leaving ∧
      session.Interchangeable (.memberReport arrival) (.memberReport departure) := by
  intro friend known session listing sighting entering leaving arrival departure
  have apart : List.Disjoint listing.touched sighting.touched := by
    simp [listing, sighting, friend, Message.touched]
  have arrival_told : arrival.change? = some entering :=
    MemberReport.change?_entering ⟨1⟩ ⟨⟨7⟩, ⟨8⟩, ⟨0⟩⟩ ⟨7⟩
  have departure_told : departure.change? = some leaving := by decide
  obtain ⟨of_apart, of_members⟩ := interchangeable_of_apart session
  exact ⟨⟨apart, of_apart listing sighting apart, by decide⟩, arrival_told, departure_told,
    of_members arrival departure entering leaving rfl arrival_told departure_told (by decide)⟩

end Session

end Presence
