import Presence.Proofs.Record.RoundTrip
import Presence.Proofs.Session.Actions
import Presence.Proofs.Session.Independence
import Presence.Proofs.Session.Isolation

/-!
# Leaving a room

Whoever leaves a room reports it to the room, which passes the report on. Leaving changes nothing
that the session knows; hearing the report takes one member off one roster, `Store.Departure`, and
is told to the subscriber once. That the two fit together is `Session.leave_heard_back`.
-/

namespace Presence

/-! ### A member less -/

/-- A room that a member has left. -/
structure Room.Departure (member : AccountId) (before after : Room) : Prop where
  id_eq : after.id = before.id
  clan_eq : after.clan = before.clan
  gone : after.members.get? member = none
  others : ∀ other, other ≠ member → after.members.get? other = before.members.get? other

/-- A store after a member has left a room, if it knows that room. -/
structure Store.Departure (room member : AccountId) (before after : Store) : Prop where
  friends_eq : after.friends = before.friends
  clans_eq : after.clans = before.clans
  persona_eq : after.persona = before.persona
  elsewhere : ∀ other, other ≠ room → after.rooms.get? other = before.rooms.get? other
  unknown : before.rooms.get? room = none → after.rooms.get? room = none
  known : ∀ found, before.rooms.get? room = some found →
    ∃ left, after.rooms.get? room = some left ∧ Room.Departure member found left

theorem Room.departure_dismiss (room : Room) (member : AccountId) :
    Departure member room (room.dismiss member) where
  id_eq := rfl
  clan_eq := rfl
  gone := by simp [dismiss, Table.get?_erase]
  others other other_ne := by simp [dismiss, Table.get?_erase, other_ne.symm]

theorem Store.departure_dismiss (store : Store) (room member : AccountId) :
    Departure room member store (store.apply (.dismiss room member)) where
  friends_eq := rfl
  clans_eq := rfl
  persona_eq := rfl
  elsewhere other other_ne := by
    rw [rooms_apply, Change.onRoom, if_neg other_ne.symm]
  unknown absent := by
    rw [rooms_apply, Change.onRoom, if_pos rfl, absent, Option.map_none]
  known found present := by
    refine ⟨found.dismiss member, ?_, found.departure_dismiss member⟩
    rw [rooms_apply, Change.onRoom, if_pos rfl, present, Option.map_some]

/-! ### The report -/

namespace Action

theorem coherent_farewell (self : AccountId) : (farewell self).Coherent where
  kind_eq := rfl
  member_iff := by simp [farewell]

theorem length_farewell (self : AccountId) : (farewell self).bytes.length = 20 := by
  simp [farewell, StateChange.bytes, Word.length_bytes]

end Action

namespace Session

/-- What hearing of a state change comes to. -/
theorem handle_told_report (session : Session) {report : MemberReport} {change : StateChange}
    (told : report.change? = some change) :
    (session.handle (.memberReport report)).1 = .ok () ∧
      (session.handle (.memberReport report)).2.store =
        session.store.applyAll (change.changes report.room) ∧
      (session.handle (.memberReport report)).2.feed =
        session.feed.publish (.member (report.event change)) ∧
      (session.handle (.memberReport report)).2.sent = session.sent := by
  obtain ⟨is_change, read⟩ := MemberReport.change?_eq_some.mp told
  refine ⟨?_, ?_, ?_, ?_⟩
  · simp only [handle_answer, Message.failure?, if_pos is_change, read]
  · rw [handle_store, changes_memberReport told]
  · rw [handle_feed, Message.events_script, Message.published, told]
    rfl
  · simp [handle_sent, Message.requests_script, Message.requested]

/-- A link that refuses nothing takes the report of somebody who leaves a room. -/
theorem act_leaveRoom (session : Session) (room : AccountId)
    (accepting : session.link.refusal? = none) :
    let left := session.act (.leaveRoom room)
    left.1 = .ok () ∧
      left.2.sent = session.sent ++
        [.reportMember room.toRoom (.known .stateChange) (Action.farewell session.self).bytes] ∧
      left.2.store = session.store ∧ left.2.feed = session.feed := by
  have asks : session.Asks (.leaveRoom room) (.reportMember room.toRoom (.known .stateChange)
      (Action.farewell session.self).bytes) := asks_of_request rfl
  obtain ⟨answer_eq, sent_eq⟩ := asks.taken accepting
  refine ⟨answer_eq, sent_eq, ?_, (session.confined_act _).feed_eq⟩
  rw [act_store]
  rfl

/-- Leaving a room sends one report of twenty bytes and changes nothing that the session knows. Any
session that hears this report, with or without anything behind it, tells its subscriber once and
takes the one who left off the roster of the room. -/
theorem leave_heard_back (session : Session) (room : AccountId)
    (accepting : session.link.refusal? = none) :
    let left := session.act (.leaveRoom room)
    ∃ payload : List UInt8, payload.length = 20 ∧ left.1 = .ok () ∧
      left.2.sent = session.sent ++ [.reportMember room.toRoom (.known .stateChange) payload] ∧
      left.2.store = session.store ∧ left.2.feed = session.feed ∧
      ∀ (hearer : Session) (rest : List UInt8),
        let heard := hearer.handle
          (.memberReport ⟨room.toRoom, .known .stateChange, payload ++ rest⟩)
        heard.1 = .ok () ∧
          heard.2.feed = hearer.feed.publish (.member {
            room := room.toRoom
            news := .known .stateChange
            actedOn := session.self
            change := .known .left
            actedBy := session.self }) ∧
          heard.2.sent = hearer.sent ∧
          Store.Departure room.toRoom session.self hearer.store heard.2.store := by
  obtain ⟨answer_eq, sent_eq, store_eq, feed_eq⟩ := session.act_leaveRoom room accepting
  refine ⟨(Action.farewell session.self).bytes, Action.length_farewell _, answer_eq, sent_eq,
    store_eq, feed_eq, ?_⟩
  intro hearer rest heard
  have told :=
    MemberReport.change?_of_bytes (Action.coherent_farewell session.self) room.toRoom rest
  obtain ⟨answer_eq, store_eq, feed_eq, sent_eq⟩ := hearer.handle_told_report told
  refine ⟨answer_eq, feed_eq, sent_eq, ?_⟩
  have dismissed : heard.2.store = hearer.store.apply (.dismiss room.toRoom session.self) :=
    store_eq
  rw [dismissed]
  exact hearer.store.departure_dismiss room.toRoom session.self

/-- Of two members in the room of a clan one leaves and the other stays. -/
theorem leave_heard_back_of_clan :
    let clan : AccountId := ⟨0x170000000000003⟩
    let session : Session := { self := ⟨0x110000100000001⟩ }
    let leaver : Member := { (default : Member) with id := session.self }
    let other : Member := { id := ⟨0x110000100000002⟩, rights := ⟨8⟩, rank := ⟨2⟩ }
    let members : Table Member := (Table.insert ∅ leaver.id leaver).insert other.id other
    let room : Room := { id := clan.toRoom, clan, members }
    let hearer : Session := { self := other.id, store := { rooms := Table.insert ∅ room.id room } }
    session.link.refusal? = none ∧ ∃ payload : List UInt8,
      (session.act (.leaveRoom clan)).2.sent =
          [.reportMember room.id (.known .stateChange) payload] ∧
        ∃ left,
          (hearer.handle (.memberReport
            ⟨room.id, .known .stateChange, payload ++ [0]⟩)).2.store.rooms.get? room.id =
              some left ∧
          left.clan = clan ∧ left.members.get? leaver.id = none ∧
          left.members.get? other.id = some other := by
  intro clan session leaver other members room hearer
  have accepting : session.link.refusal? = none := rfl
  have present : hearer.store.rooms.get? room.id = some room := by decide
  obtain ⟨payload, -, -, sent_eq, -, -, heard⟩ := session.leave_heard_back clan accepting
  obtain ⟨-, -, -, departure⟩ := heard hearer [0]
  obtain ⟨left, found, parted⟩ := departure.known room present
  refine ⟨accepting, payload, sent_eq, left, found, parted.clan_eq, parted.gone, ?_⟩
  rw [parted.others other.id (by decide)]
  decide

end Session

end Presence
