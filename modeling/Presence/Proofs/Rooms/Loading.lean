import Presence.Proofs.Record.RoundTrip
import Presence.Proofs.Session.Changes

/-!
# Two ways to load a roster

A session learns who is in a room either from the roster that comes with the entry or from the
reports on members who enter one by one. `Session.handle_roster` says that both ways lead to the
same store: the messages bring about the very same changes.
-/

namespace Presence

namespace RoomEntry

/-- What a room entry lacks is what its roster lacks. -/
theorem failure_script (entry : RoomEntry) :
    entry.script.failure =
      match Roster.ofBytes entry.payload entry.announced with
      | .ok (_, roster) => roster.shortfall?
      | .error shortfall => some shortfall := by
  simp only [script]
  cases Roster.ofBytes entry.payload entry.announced with
  | error shortfall => rfl
  | ok opened =>
      simp only
      split
      · next shortfall_eq => rw [shortfall_eq]
      · next shortfall_eq => rw [shortfall_eq]

/-- The entry into a room with the given name and roster, all members being announced. -/
def withRoster (entry : RoomEntry) (name : List UInt8) (reserved : UInt8)
    (entries : List Roster.Entry) (rest : List UInt8) : RoomEntry :=
  { entry with
    memberCount := .ofNat entries.length
    payload := Roster.payload name reserved entries rest }

variable {name : List UInt8} {entries : List Roster.Entry}

theorem opens_withRoster (entry : RoomEntry) (reserved : UInt8) (rest : List UInt8)
    (name_free : 0 ∉ name) (few : entries.length ≤ 2147483647) :
    ∃ roster : Roster,
      Roster.ofBytes (entry.withRoster name reserved entries rest).payload
          (entry.withRoster name reserved entries rest).announced =
        .ok (Utf8.decode name, roster) ∧
      roster.items.map (·.1) = (entries.map (·.member)).map .ok ++ [].map .error := by
  have announced_eq : (entry.withRoster name reserved entries rest).announced =
      entries.length := by
    rw [announced, withRoster, Int32.toInt_ofNat_of_lt (by omega)]
    rfl
  rcases Roster.ofBytes_payload name_free reserved entries rest entries.length with
    ⟨position, ofBytes_eq⟩
  refine ⟨_, announced_eq.symm ▸ ofBytes_eq, ?_⟩
  have items_eq := Roster.itemsAt_entries entries rest position 0
  rw [Nat.add_zero] at items_eq
  simp only [Roster.items, announced_eq, items_eq, Roster.itemsAt, List.map_nil, List.append_nil,
    List.map_map]
  rfl

theorem admitted_withRoster (entry : RoomEntry) (reserved : UInt8) (rest : List UInt8)
    (name_free : 0 ∉ name) (few : entries.length ≤ 2147483647) :
    (entry.withRoster name reserved entries rest).admitted = entries.map (·.member) := by
  rcases opens_withRoster entry reserved rest name_free few with ⟨roster, ofBytes_eq, items_eq⟩
  rw [admitted, ofBytes_eq]
  exact Roster.members_of_items items_eq

theorem failure_withRoster (entry : RoomEntry) (reserved : UInt8) (rest : List UInt8)
    (name_free : 0 ∉ name) (few : entries.length ≤ 2147483647) :
    (entry.withRoster name reserved entries rest).script.failure = none := by
  rcases opens_withRoster entry reserved rest name_free few with ⟨roster, ofBytes_eq, items_eq⟩
  rw [failure_script, ofBytes_eq]
  exact (Roster.shortfall?_eq_none_iff items_eq).mpr rfl

end RoomEntry

/-! ### Members who enter one by one -/

namespace StateChange

/-- The state change that reports that a member has entered. -/
def entering (member : Member) (actedBy : AccountId) : StateChange where
  actedOn := member.id
  change := .known .entered
  actedBy
  member := some member

theorem coherent_entering (member : Member) (actedBy : AccountId) :
    (entering member actedBy).Coherent :=
  ⟨(Wire.ofCode_code MemberChange.entered).symm, by simp [entering]⟩

end StateChange

/-- A report tells of the state change that was written into it, whatever follows there. -/
theorem MemberReport.change?_of_bytes {change : StateChange} (coherent : change.Coherent)
    (room : AccountId) (rest : List UInt8) :
    change? ⟨room, .known .stateChange, change.bytes ++ rest⟩ = some change :=
  change?_eq_some.mpr ⟨rfl, StateChange.ofBytes_bytes coherent rest⟩

/-- The report to a room that a member has entered. -/
def MemberReport.entering (room : AccountId) (member : Member) (actedBy : AccountId) :
    MemberReport where
  room
  news := .known .stateChange
  payload := (StateChange.entering member actedBy).bytes

theorem MemberReport.change?_entering (room : AccountId) (member : Member)
    (actedBy : AccountId) :
    (entering room member actedBy).change? = some (.entering member actedBy) := by
  have told := change?_of_bytes (StateChange.coherent_entering member actedBy) room []
  rw [List.append_nil] at told
  exact told

/-- A report that a member has entered seats the member. -/
theorem Message.changes_entering (self room : AccountId) (member : Member)
    (actedBy : AccountId) :
    (Message.memberReport (.entering room member actedBy)).changes self =
      [.seat room member] := by
  simp only [Message.changes, MemberReport.change?_entering]
  rfl

namespace Session

theorem handle_result (session : Session) (message : Message) :
    (session.handle message).1 =
      match (message.body session.settings session.self).failure with
      | some cause => .error { kind := message.kind, cause }
      | none => .ok () := rfl

/-- Entering a room with its whole roster, whatever follows it, is the same for the store as
entering it without a roster and then hearing of the members one by one. -/
theorem handle_roster (session : Session) (entry : RoomEntry) {name : List UInt8}
    (reserved : UInt8) (arrivals : List (Roster.Entry × AccountId)) (rest : List UInt8)
    (name_free : 0 ∉ name) (few : arrivals.length ≤ 2147483647) :
    let bulk : Message :=
      .roomEntry (entry.withRoster name reserved (arrivals.map (·.1)) rest)
    let bare : Message := .roomEntry (entry.withRoster name reserved [] [])
    let reports : List Message := arrivals.map fun arrival =>
      .memberReport (.entering entry.room arrival.1.member arrival.2)
    (session.handle bulk).1 = .ok () ∧
      (session.handle bulk).2.store = (session.run (bare :: reports)).store := by
  intro bulk bare reports
  have bulk_few : (arrivals.map (·.1)).length ≤ 2147483647 := by rwa [List.length_map]
  constructor
  · have complete := RoomEntry.failure_withRoster entry reserved rest name_free bulk_few
    rw [handle_result]
    simp only [bulk, Message.body, complete]
  · have bulk_admitted := RoomEntry.admitted_withRoster entry reserved rest name_free bulk_few
    have bare_admitted : (entry.withRoster name reserved [] []).admitted = [] :=
      RoomEntry.admitted_withRoster entry reserved [] name_free (by simp)
    have reports_changes : reports.flatMap (Message.changes session.self) =
        arrivals.map fun arrival => .seat entry.room arrival.1.member := by
      rw [List.flatMap_map]
      simp only [Message.changes_entering]
      exact List.map_eq_flatMap.symm
    rw [handle_store, run_store, List.flatMap_cons, reports_changes]
    simp only [bulk, bare, Message.changes, RoomEntry.changes, bulk_admitted, bare_admitted,
      List.map_map, List.map_nil, List.singleton_append]
    rfl

/-- Of two records of one member the last counts, either way. -/
theorem handle_roster_of_repeated_member :
    let guest : Roster.Entry :=
      { member := ⟨⟨5⟩, ⟨0⟩, ⟨0⟩⟩, padding := [0, 0, 0, 0, 0, 0], padding_length := rfl }
    let speaker : Roster.Entry :=
      { member := ⟨⟨5⟩, ⟨8⟩, ⟨0⟩⟩, padding := [1, 2, 3, 4, 5, 6], padding_length := rfl }
    let entry : RoomEntry := default
    let bulk : Message := .roomEntry (entry.withRoster [0x61] 0 [guest, speaker] [0xff])
    let bare : Message := .roomEntry (entry.withRoster [0x61] 0 [] [])
    let reports : List Message :=
      [.memberReport (.entering entry.room guest.member ⟨7⟩),
        .memberReport (.entering entry.room speaker.member ⟨9⟩)]
    let session : Session := default
    0 ∉ [(0x61 : UInt8)] ∧ [guest, speaker].length ≤ 2147483647 ∧
      (session.handle bulk).1 = .ok () ∧
      (session.handle bulk).2.store = (session.run (bare :: reports)).store ∧
      ((session.handle bulk).2.store.rooms.get? entry.room).bind (·.members.get? ⟨5⟩) =
        some speaker.member := by
  intro guest speaker entry bulk bare reports session
  have name_free : 0 ∉ [(0x61 : UInt8)] := by decide
  have few : [guest, speaker].length ≤ 2147483647 := by decide
  obtain ⟨answer_eq, store_eq⟩ :=
    handle_roster session entry 0 [(guest, ⟨7⟩), (speaker, ⟨9⟩)] [0xff] name_free few
  have changes_eq : bulk.changes session.self =
      [.enterRoom entry.room entry.clan, .seat entry.room guest.member,
        .seat entry.room speaker.member] := by
    simp only [bulk, Message.changes, RoomEntry.changes,
      RoomEntry.admitted_withRoster entry 0 [0xff] name_free few]
    rfl
  refine ⟨name_free, few, answer_eq, store_eq, ?_⟩
  rw [handle_store, changes_eq]
  decide

end Session

end Presence
