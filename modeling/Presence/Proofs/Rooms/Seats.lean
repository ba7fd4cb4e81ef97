import Presence.Proofs.Latest
import Presence.Proofs.Record.RoundTrip
import Presence.Proofs.Session.Changes

/-!
# Who is in a room

Rooms are set up anew on entry, and their members come and go with the state changes that are
reported. Nevertheless the place of one member in one room is a matter of a single message: the last
one that says something about it. `Message.seat?` is what a message says, and `Session.seats_run`
is the law for a whole run of messages.
-/

namespace Presence

/-- The member of a room, if both are there. -/
def Store.member? (store : Store) (room id : AccountId) : Option Member :=
  (store.rooms.get? room).bind fun found => found.members.get? id

/-! ### What one change says -/

namespace Change

/-- Messages set rooms up, but they neither add nor remove one as it is. -/
def fromMessage : Change → Bool
  | .addRoom _ | .removeRoom _ => false
  | _ => true

/-- What a change says about the place of a member in a room. -/
def seat? (room id : AccountId) : Change → Option (Option Member)
  | .enterRoom entered _ => if entered = room then some none else none
  | .seat place member => if place = room ∧ member.id = id then some (some member) else none
  | .dismiss place member => if place = room ∧ member = id then some none else none
  | _ => none

/-- Whether a room is there after the change even if it was not before. -/
def opens (room : AccountId) : Change → Bool
  | .enterRoom entered _ => entered = room
  | .seat place _ => place = room
  | _ => false

/-- What a change says about the clan of a room. -/
def clan? (room : AccountId) : Change → Option AccountId
  | .enterRoom entered clan => if entered = room then some clan else none
  | _ => none

end Change

namespace Store

variable {store : Store} {change : Change}

theorem member?_apply (room id : AccountId) (from_message : change.fromMessage) :
    (store.apply change).member? room id =
      (change.seat? room id).getD (store.member? room id) := by
  simp only [member?, rooms_apply]
  cases change with
  | addRoom added => cases from_message
  | removeRoom removed => cases from_message
  | enterRoom entered clan =>
      by_cases entered_eq : entered = room <;> simp [Change.onRoom, Change.seat?, entered_eq]
  | seat place member =>
      by_cases place_eq : place = room
      · by_cases id_eq : member.id = id <;> cases store.rooms.get? room <;>
          simp [Change.onRoom, Change.seat?, place_eq, id_eq, Room.seat, Table.get?_insert]
      · simp [Change.onRoom, Change.seat?, place_eq]
  | dismiss place member =>
      by_cases place_eq : place = room
      · by_cases id_eq : member = id <;> cases store.rooms.get? room <;>
          simp [Change.onRoom, Change.seat?, place_eq, id_eq, Room.dismiss, Table.get?_erase]
      · simp [Change.onRoom, Change.seat?, place_eq]
  | _ => rfl

theorem contains_apply (room : AccountId) (from_message : change.fromMessage) :
    (store.apply change).rooms.contains room =
      (store.rooms.contains room || change.opens room) := by
  simp only [Table.contains, rooms_apply]
  cases change with
  | addRoom added => cases from_message
  | removeRoom removed => cases from_message
  | enterRoom entered clan =>
      by_cases entered_eq : entered = room <;> simp [Change.onRoom, Change.opens, entered_eq]
  | seat place member =>
      by_cases place_eq : place = room <;> simp [Change.onRoom, Change.opens, place_eq]
  | dismiss place member =>
      by_cases place_eq : place = room <;> simp [Change.onRoom, Change.opens, place_eq]
  | _ => simp [Change.onRoom, Change.opens]

/-- The clan of a room, zero if there is no such room. -/
def clanOf (store : Store) (room : AccountId) : AccountId :=
  ((store.rooms.get? room).map (·.clan)).getD ⟨0⟩

theorem clanOf_apply (room : AccountId) (from_message : change.fromMessage) :
    (store.apply change).clanOf room = (change.clan? room).getD (store.clanOf room) := by
  simp only [clanOf, rooms_apply]
  cases change with
  | addRoom added => cases from_message
  | removeRoom removed => cases from_message
  | enterRoom entered clan =>
      by_cases entered_eq : entered = room <;> simp [Change.onRoom, Change.clan?, entered_eq]
  | seat place member =>
      by_cases place_eq : place = room <;> cases store.rooms.get? room <;>
        simp [Change.onRoom, Change.clan?, Room.seat, place_eq]
      rfl
  | dismiss place member =>
      by_cases place_eq : place = room <;> cases store.rooms.get? room <;>
        simp [Change.onRoom, Change.clan?, Room.dismiss, place_eq]
  | _ => rfl

end Store

/-! ### What one message says -/

/-- The last record about an account among those in front of the first that cannot be read. -/
def RoomEntry.seat? (id : AccountId) (entry : RoomEntry) : Option Member :=
  latest? (fun member => if member.id = id then some member else none) entry.admitted

/-- What a state change says about the place of a member: one who enters has the permissions of the
record, whomever the record names; one who goes has no place. -/
def StateChange.seat? (id : AccountId) (change : StateChange) : Option (Option Member) :=
  if change.actedOn = id then
    match change.change with
    | .known .entered => some (change.member.map fun record => { record with id })
    | .known .left | .known .disconnected | .known .kicked | .known .banned => some none
    | _ => none
  else none

namespace Message

/-- What a message says about the place of a member in a room, if it says anything: that there is
none, or which it is. -/
def seat? (room id : AccountId) : Message → Option (Option Member)
  | .roomEntry entry => if entry.room = room then some (entry.seat? id) else none
  | .memberReport report =>
      if report.room = room then report.change?.bind (StateChange.seat? id) else none
  | _ => none

/-- Whether a message sets a room up: by entry into it, or because a member enters. -/
def opens (room : AccountId) : Message → Bool
  | .roomEntry entry => entry.room = room
  | .memberReport report =>
      report.room = room && report.change?.any fun change => change.change = .known .entered
  | _ => false

/-- The clan that a room is entered with. -/
def clan? (room : AccountId) : Message → Option AccountId
  | .roomEntry entry => if entry.room = room then some entry.clan else none
  | _ => none

end Message

theorem StateChange.latest?_changes {change : StateChange} (coherent : change.Coherent)
    (room place id : AccountId) :
    latest? (Change.seat? room id) (change.changes place) =
      if place = room then change.seat? id else none := by
  rcases change with ⟨actedOn, kind, actedBy, member⟩
  have entered_member := coherent.member_iff
  cases kind with
  | other code => simp [StateChange.changes, StateChange.seat?, MemberChange.removes]
  | known meaning =>
      cases meaning with
      | entered =>
          rcases Option.isSome_iff_exists.mp (entered_member.mpr rfl) with ⟨record, rfl⟩
          by_cases place_eq : place = room <;> by_cases id_eq : actedOn = id <;>
            simp [StateChange.changes, StateChange.seat?, Change.seat?, place_eq, id_eq]
      | left | disconnected | kicked | banned =>
          by_cases place_eq : place = room <;> by_cases id_eq : actedOn = id <;>
            simp [StateChange.changes, StateChange.seat?, Change.seat?, MemberChange.removes,
              MemberChange.leaves, place_eq, id_eq]
      | voiceSpeaking | voiceDoneSpeaking =>
          simp [StateChange.changes, StateChange.seat?, MemberChange.removes,
            MemberChange.leaves]

theorem StateChange.any_opens_changes {change : StateChange} (coherent : change.Coherent)
    (room place : AccountId) :
    (change.changes place).any (Change.opens room) =
      (place = room && change.change = .known .entered) := by
  rcases change with ⟨actedOn, kind, actedBy, member⟩
  have entered_member := coherent.member_iff
  cases kind with
  | other code => simp [StateChange.changes, MemberChange.removes]
  | known meaning =>
      cases meaning with
      | entered =>
          rcases Option.isSome_iff_exists.mp (entered_member.mpr rfl) with ⟨record, rfl⟩
          simp [StateChange.changes, Change.opens]
      | _ => simp [StateChange.changes, MemberChange.removes, MemberChange.leaves, Change.opens]

theorem MemberReport.coherent_of_change? {report : MemberReport} {change : StateChange}
    (told : report.change? = some change) : change.Coherent :=
  StateChange.coherent_of_ofBytes (change?_eq_some.mp told).2

theorem Change.seat?_of_not_inRooms {change : Change} (not_in_rooms : change.inRooms = false)
    (room id : AccountId) : change.seat? room id = none := by
  cases change <;> first | rfl | cases not_in_rooms

namespace Message

variable {self : AccountId}

theorem fromMessage_of_mem_changes {message : Message} {change : Change}
    (change_mem : change ∈ message.changes self) : change.fromMessage := by
  cases in_rooms : message.inRooms with
  | true =>
      rcases mem_changes change_mem in_rooms with ⟨_, _, rfl⟩ | ⟨_, _, rfl⟩ | ⟨_, _, rfl⟩ <;> rfl
  | false =>
      have not_in_rooms := inRooms_changes change_mem
      rw [in_rooms] at not_in_rooms
      cases change <;> first | rfl | cases not_in_rooms

theorem fromMessage_of_mem_run {messages : List Message} {change : Change}
    (change_mem : change ∈ messages.flatMap (changes self)) : change.fromMessage := by
  rcases List.mem_flatMap.mp change_mem with ⟨message, _, change_mem⟩
  exact fromMessage_of_mem_changes change_mem

theorem latest?_seat?_changes (message : Message) (room id : AccountId) :
    latest? (Change.seat? room id) (message.changes self) = message.seat? room id := by
  cases message with
  | roomEntry entry =>
      simp only [changes, RoomEntry.changes, latest?_cons, latest?_map, Change.seat?, seat?]
      by_cases room_eq : entry.room = room
      · have told : (fun member : Member =>
            if entry.room = room ∧ member.id = id then some (some member) else none) =
            fun member => (if member.id = id then some member else none).map some := by
          funext member
          by_cases id_eq : member.id = id <;> simp [room_eq, id_eq]
        rw [told, latest?_value, if_pos room_eq, if_pos room_eq, RoomEntry.seat?]
        -- The roster follows the new room, so any record in it comes after the empty place.
        cases latest? (fun member : Member => if member.id = id then some member else none)
          entry.admitted <;> rfl
      · simp [room_eq, latest?_eq_none_iff]
  | memberReport report =>
      simp only [changes, seat?]
      cases told : report.change? with
      | none => simp
      | some change =>
          have coherent := MemberReport.coherent_of_change? told
          simp [StateChange.latest?_changes coherent]
  | _ =>
      apply latest?_eq_none_iff.mpr
      intro change change_mem
      exact Change.seat?_of_not_inRooms (inRooms_changes change_mem) room id

theorem any_opens_changes (message : Message) (room : AccountId) :
    (message.changes self).any (Change.opens room) = message.opens room := by
  cases message with
  | roomEntry entry =>
      by_cases room_eq : entry.room = room <;>
        simp [changes, RoomEntry.changes, Change.opens, opens, room_eq]
  | memberReport report =>
      simp only [changes, opens]
      cases told : report.change? with
      | none => simp
      | some change =>
          simp [StateChange.any_opens_changes (MemberReport.coherent_of_change? told)]
  | _ =>
      apply List.any_eq_false.mpr
      intro change change_mem
      have in_rooms := inRooms_changes change_mem
      cases change <;> first | exact Bool.false_ne_true | cases in_rooms

theorem latest?_clan?_changes (message : Message) (room : AccountId) :
    latest? (Change.clan? room) (message.changes self) = message.clan? room := by
  cases message with
  | roomEntry entry =>
      simp only [changes, RoomEntry.changes, latest?_cons, latest?_map, Change.clan?, clan?]
      have untold : latest? (fun _ : Member => (none : Option AccountId)) entry.admitted = none :=
        latest?_eq_none_iff.mpr fun _ _ => rfl
      rw [untold, Option.none_or]
  | memberReport report =>
      apply latest?_eq_none_iff.mpr
      intro change change_mem
      rcases List.mem_flatMap.mp change_mem with ⟨told, _, part_mem⟩
      rcases StateChange.mem_changes part_mem with ⟨member, rfl⟩ | rfl <;> rfl
  | _ =>
      apply latest?_eq_none_iff.mpr
      intro change change_mem
      have in_rooms := inRooms_changes change_mem
      cases change <;> first | rfl | cases in_rooms

end Message

/-- What one message makes of the place of a member. -/
theorem Store.member?_applyAll (store : Store) (self : AccountId) (message : Message)
    (room id : AccountId) :
    (store.applyAll (message.changes self)).member? room id =
      (message.seat? room id).getD (store.member? room id) := by
  let view (store : Store) : Option Member := store.member? room id
  have latest : view (store.applyAll (message.changes self)) =
      (latest? (Change.seat? room id) (message.changes self)).getD (view store) :=
    foldl_latest (fun store change change_mem =>
      store.member?_apply room id (Message.fromMessage_of_mem_changes change_mem)) store
  rw [Message.latest?_seat?_changes] at latest
  exact latest

/-! ### A run of messages -/

namespace Session

/-- Whatever a message either leaves alone or overwrites, the last message that tells it decides. -/
theorem run_latest {β : Type} (view : Store → β) {tell : Change → Option β}
    (view_apply : ∀ store : Store, ∀ change : Change, change.fromMessage →
      view (store.apply change) = (tell change).getD (view store))
    (session : Session) (messages : List Message) :
    view (session.run messages).store =
      (latest? (fun message : Message => latest? tell (message.changes session.self))
        messages).getD (view session.store) := by
  rw [run_store, ← latest?_flatMap]
  apply foldl_latest
  intro store change change_mem
  exact view_apply store change (Message.fromMessage_of_mem_run change_mem)

theorem contains_run (session : Session) (messages : List Message) (room : AccountId) :
    (session.run messages).store.rooms.contains room =
      (session.store.rooms.contains room || messages.any (Message.opens room)) := by
  have any_opens : messages.any (Message.opens room) =
      (messages.flatMap (Message.changes session.self)).any (Change.opens room) := by
    rw [List.any_flatMap]
    simp only [Message.any_opens_changes]
  have from_message : ∀ change ∈ messages.flatMap (Message.changes session.self),
      change.fromMessage := fun change => Message.fromMessage_of_mem_run
  rw [run_store, any_opens]
  generalize messages.flatMap (Message.changes session.self) = changes at from_message
  generalize session.store = store
  induction changes generalizing store with
  | nil => simp
  | cons change rest ih =>
      have contains_rest := ih (fun later later_mem =>
        from_message later (List.mem_cons_of_mem change later_mem)) (store.apply change)
      rw [Store.applyAll_cons, contains_rest,
        Store.contains_apply room (from_message change List.mem_cons_self), List.any_cons,
        Bool.or_assoc]

/-- The roster law. Whether an account is in a room, and with which permissions, is what the last
message says that says anything about it. A room is there exactly if some message has set it up, and
its clan is the one that it was entered with last. -/
theorem seats_run (session : Session) (messages : List Message) (room : AccountId) :
    let store := (session.afresh.run messages).store
    (∀ id, store.member? room id = (latest? (Message.seat? room id) messages).getD none) ∧
      (store.rooms.contains room ↔ ∃ message ∈ messages, message.opens room) ∧
      store.clanOf room = (latest? (Message.clan? room) messages).getD ⟨0⟩ := by
  refine ⟨?_, ?_, ?_⟩
  · intro id
    rw [run_latest (fun store => store.member? room id)
      fun store change from_message => store.member?_apply room id from_message]
    simp only [Message.latest?_seat?_changes]
    rfl
  · have nothing_yet : session.afresh.store.rooms.contains room = false := rfl
    rw [contains_run, nothing_yet, Bool.false_or, List.any_eq_true]
  · rw [run_latest (fun store => store.clanOf room)
      fun store change from_message => store.clanOf_apply room from_message]
    simp only [Message.latest?_clan?_changes]
    rfl

end Session

end Presence
