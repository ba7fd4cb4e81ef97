import Presence.Proofs.Latest
import Presence.Proofs.Record.Stream
import Presence.Proofs.Rooms.Loading
import Presence.Proofs.Session.Output

/-!
# Rosters that are cut short

A room entry may end anywhere, and the number of members that it announces need not be true. Since
every member takes the same number of bytes in a roster that was properly written, the place of the
cut says which members are whole, and these are the ones that are admitted, as far as they were
announced. `Session.handle_cut_roster` says so for every cut and every number.
-/

namespace Presence

namespace Roster

variable {entries : List Entry} {cut count : Nat}

theorem Entry.length_bytes (entry : Entry) : entry.bytes.length = 67 := by
  rw [Entry.bytes, List.length_append, Member.length_bytes, entry.padding_length]
  rfl

/-- In front of a cut stand the entries that are whole, and a part of the next one. -/
theorem take_flatMap_bytes (whole_le : 67 * count ≤ cut) (count_le : count ≤ entries.length) :
    (entries.flatMap Entry.bytes).take cut =
      (entries.take count).flatMap Entry.bytes ++
        ((entries.drop count).flatMap Entry.bytes).take (cut - 67 * count) := by
  have length_eq : ((entries.take count).flatMap Entry.bytes).length = 67 * count := by
    rw [length_flatMap_of_width Entry.length_bytes, List.length_take_of_le count_le]
  have split : entries.flatMap Entry.bytes =
      (entries.take count).flatMap Entry.bytes ++ (entries.drop count).flatMap Entry.bytes := by
    rw [← List.flatMap_append, List.take_append_drop]
  rw [split, List.take_append, length_eq, List.take_of_length_le (length_eq ▸ whole_le)]

/-- Some entry has the bytes at the end of a roster as its own first ones. -/
theorem exists_prefix_of_cut (entries : List Entry) (cut_lt : cut < 67) :
    ∃ entry : Entry, (entries.flatMap Entry.bytes).take cut <+: entry.bytes := by
  cases entries with
  | nil => exact ⟨⟨default, List.replicate paddingLength 0, rfl⟩, by simp⟩
  | cons entry others =>
      refine ⟨entry, ?_⟩
      rw [List.flatMap_cons, List.take_append_of_le_length (by rw [entry.length_bytes]; omega)]
      exact List.take_prefix cut entry.bytes

theorem itemsAt_cut_entry (entries : List Entry) (cut_lt : cut < 67) (position left : Nat) :
    ∃ shortfall, (itemsAt { unread := (entries.flatMap Entry.bytes).take cut, position }
      (left + 1)).map (·.1) = [.error shortfall] := by
  rcases exists_prefix_of_cut entries cut_lt with ⟨entry, cut_front⟩
  have shorter : ((entries.flatMap Entry.bytes).take cut).length < entry.bytes.length := by
    rw [entry.length_bytes, List.length_take]
    omega
  rcases orderly_readMember.fails_on_cut (reads_readMember entry) cut_front shorter position with
    ⟨shortfall, reached, readAt_eq⟩
  refine ⟨shortfall, ?_⟩
  rw [itemsAt, readAt_eq]
  rfl

/-- A roster that was cut short gives the members in front of the cut, and then a failure if more
are announced. -/
theorem itemsAt_cut (entries : List Entry) (cut_le : cut ≤ 67 * entries.length)
    (position count : Nat) :
    ∃ failures : List Shortfall,
      (itemsAt { unread := (entries.flatMap Entry.bytes).take cut, position } count).map (·.1) =
        (entries.take (min count (cut / 67))).map (fun entry => .ok entry.member) ++
          failures.map .error ∧
        (failures = [] ↔ count ≤ cut / 67) := by
  have division := Nat.div_add_mod cut 67
  have remainder_lt := Nat.mod_lt cut (by decide : 0 < 67)
  by_cases enough : count ≤ cut / 67
  · refine ⟨[], ?_, by simpa using enough⟩
    have count_le : count ≤ entries.length := by omega
    have all_read := itemsAt_entries (entries.take count)
      (((entries.drop count).flatMap Entry.bytes).take (cut - 67 * count)) position 0
    rw [List.length_take_of_le count_le, Nat.add_zero] at all_read
    rw [take_flatMap_bytes (by omega) count_le, all_read, Nat.min_eq_left enough]
    rfl
  · have whole_le : cut / 67 ≤ entries.length := by omega
    have count_eq : count = (entries.take (cut / 67)).length + ((count - cut / 67 - 1) + 1) := by
      rw [List.length_take_of_le whole_le]
      omega
    have scarce : cut - 67 * (cut / 67) < 67 := by omega
    rcases itemsAt_cut_entry (entries.drop (cut / 67)) scarce
      (position + ((entries.take (cut / 67)).flatMap Entry.bytes).length) (count - cut / 67 - 1)
      with ⟨shortfall, last_eq⟩
    refine ⟨[shortfall], ?_, by simpa using enough⟩
    rw [Nat.min_eq_right (Nat.le_of_not_le enough), take_flatMap_bytes (by omega) whole_le]
    conv_lhs => rw [count_eq]
    rw [itemsAt_entries, last_eq]
    rfl

end Roster

namespace RoomEntry

theorem exact_failure {entry : RoomEntry} {shortfall : Shortfall}
    (failed : entry.script.failure = some shortfall) :
    shortfall.Exact entry.payload.length := by
  rw [failure_script] at failed
  split at failed
  · next opened => exact Roster.exact_of_shortfall? opened failed
  · next unopened =>
      cases failed
      exact Roster.exact_of_ofBytes unopened

theorem requests_script (entry : RoomEntry) : Script.requestsAmong entry.script.effects = [] := by
  simp only [script]
  split
  · rfl
  · split <;> simp

theorem events_script_of_failure {entry : RoomEntry} {shortfall : Shortfall}
    (failed : entry.script.failure = some shortfall) :
    Script.eventsAmong entry.script.effects = [] := by
  simp only [script] at failed ⊢
  split
  · rfl
  · next opened =>
      simp only [opened] at failed
      split
      · simp
      · next complete => simp [complete] at failed

theorem events_script_of_complete {entry : RoomEntry} {name : String} {roster : Roster}
    (opened : Roster.ofBytes entry.payload entry.announced = .ok (name, roster))
    (complete : roster.shortfall? = none) :
    Script.eventsAmong entry.script.effects = [.entry (entry.event name)] := by
  simp [script, opened, complete]

end RoomEntry

/-! ### What the members in front of the cut leave in the store -/

theorem Table.upsert_insert {α : Type} (table : Table α) (id : AccountId) (value initial : α)
    (change : α → α) :
    (table.insert id value).upsert id initial change = table.insert id (change value) := by
  ext1 other
  simp only [get?_upsert, get?_insert]
  by_cases id_eq : id = other <;> simp [id_eq]

/-- Of the members who are seated in a room one after another, the last of each account stays. -/
theorem Room.get?_foldl_seat (room : Room) (members : List Member) (id : AccountId) :
    (members.foldl seat room).members.get? id =
      (latest? (fun member => if member.id = id then some member else none) members).or
        (room.members.get? id) := by
  induction members generalizing room with
  | nil => rfl
  | cons member others ih =>
      rw [List.foldl_cons, ih, latest?_cons, Option.or_assoc, seat, Table.get?_insert]
      split <;> rfl

theorem Room.foldl_seat_eq (room : Room) (members : List Member) :
    members.foldl seat room = { room with members := (members.foldl seat room).members } := by
  induction members generalizing room with
  | nil => rfl
  | cons member others ih =>
      rw [List.foldl_cons, ih]
      rfl

theorem Store.applyAll_seats (store : Store) (room : Room) (members : List Member) :
    { store with rooms := store.rooms.insert room.id room : Store }.applyAll
        (members.map (.seat room.id)) =
      { store with rooms := store.rooms.insert room.id (members.foldl Room.seat room) } := by
  induction members generalizing room with
  | nil => rfl
  | cons member others ih =>
      rw [List.map_cons, applyAll_cons, List.foldl_cons, apply, Table.upsert_insert]
      exact ih (room.seat member)

/-- A room entry sets up the room with the members that it admits, and does nothing else. -/
theorem Store.applyAll_entry (store : Store) (entry : RoomEntry) :
    ∃ roster : Table Member,
      (∀ id, roster.get? id =
        latest? (fun member => if member.id = id then some member else none) entry.admitted) ∧
      store.applyAll entry.changes =
        { store with
          rooms := store.rooms.insert entry.room
            { id := entry.room, clan := entry.clan, members := roster } } := by
  let room : Room := { id := entry.room, clan := entry.clan }
  refine ⟨(entry.admitted.foldl Room.seat room).members, ?_, ?_⟩
  · intro id
    rw [Room.get?_foldl_seat]
    exact Option.or_none
  · have seated := store.applyAll_seats room entry.admitted
    rw [Room.foldl_seat_eq] at seated
    exact seated

/-! ### Room entries with a cut roster -/

namespace RoomEntry

/-- The entry into a room whose payload ends after `cut` bytes. The number of members announced may
be any. -/
def cutShort (entry : RoomEntry) (name : List UInt8) (reserved : UInt8)
    (entries : List Roster.Entry) (cut : Nat) : RoomEntry :=
  { entry with payload := (Roster.payload name reserved entries []).take cut }

variable {name : List UInt8} {cut : Nat}

theorem length_payload (name : List UInt8) (reserved : UInt8) (entries : List Roster.Entry) :
    (Roster.payload name reserved entries []).length = name.length + 2 + 67 * entries.length := by
  simp only [Roster.payload, List.length_append, List.length_singleton, List.length_nil,
    length_flatMap_of_width Roster.Entry.length_bytes]
  omega

/-- A cut within the name leaves nothing to read. -/
theorem ofBytes_cut_name (name_free : 0 ∉ name) (reserved : UInt8) (entries : List Roster.Entry)
    (count : Nat) (early : cut < name.length + 2) :
    ∃ shortfall, Roster.ofBytes ((Roster.payload name reserved entries []).take cut) count =
      .error shortfall := by
  have head_length : (name ++ [0] ++ [reserved]).length = name.length + 2 := by simp
  have cut_eq : (Roster.payload name reserved entries []).take cut =
      (name ++ [0] ++ [reserved]).take cut := by
    rw [Roster.payload, List.take_append_of_le_length (by omega)]
  have shorter : ((name ++ [0] ++ [reserved]).take cut).length <
      (name ++ [0] ++ [reserved]).length := by
    rw [List.length_take]
    omega
  rcases Roster.orderly_readName.fails_on_cut (Roster.reads_readName name_free reserved)
    (List.take_prefix cut _) shorter 0 with ⟨shortfall, reached, readAt_eq⟩
  refine ⟨shortfall, ?_⟩
  rw [Roster.ofBytes, cut_eq, readAt_eq]

/-- A cut behind the name leaves the name and a cut roster. -/
theorem ofBytes_cut_roster (name_free : 0 ∉ name) (reserved : UInt8)
    (entries : List Roster.Entry) (count : Nat) (late : name.length + 2 ≤ cut) :
    ∃ position, Roster.ofBytes ((Roster.payload name reserved entries []).take cut) count =
      .ok (Utf8.decode name,
        { cursor :=
            { unread := (entries.flatMap Roster.Entry.bytes).take (cut - (name.length + 2)),
              position },
          left := count }) := by
  have head_length : (name ++ [0] ++ [reserved]).length = name.length + 2 := by simp
  have cut_eq : (Roster.payload name reserved entries []).take cut =
      Roster.payload name reserved []
        ((entries.flatMap Roster.Entry.bytes).take (cut - (name.length + 2))) := by
    rw [Roster.payload, List.take_append, head_length,
      List.take_of_length_le (head_length ▸ late), List.append_nil]
    rfl
  rw [cut_eq]
  exact Roster.ofBytes_payload name_free reserved [] _ count

/-- A cut behind the name leaves the members in front of it to read, as far as they are announced,
and a failure if more are announced. -/
theorem opens_cutShort (entry : RoomEntry) (name_free : 0 ∉ name) (reserved : UInt8)
    (entries : List Roster.Entry)
    (cut_le : cut ≤ (Roster.payload name reserved entries []).length)
    (late : name.length + 2 ≤ cut) :
    ∃ (roster : Roster) (failures : List Shortfall),
      Roster.ofBytes (entry.cutShort name reserved entries cut).payload entry.announced =
        .ok (Utf8.decode name, roster) ∧
      roster.items.map (·.1) =
        ((entries.take (min entry.announced ((cut - (name.length + 2)) / 67))).map
          (·.member)).map .ok ++ failures.map .error ∧
      (failures = [] ↔ entry.announced ≤ (cut - (name.length + 2)) / 67) := by
  rw [length_payload] at cut_le
  rcases ofBytes_cut_roster name_free reserved entries entry.announced late with
    ⟨position, opened⟩
  have roster_cut_le : cut - (name.length + 2) ≤ 67 * entries.length := by omega
  rcases Roster.itemsAt_cut entries roster_cut_le position entry.announced with
    ⟨failures, items_eq, complete_iff⟩
  refine ⟨_, failures, opened, ?_, complete_iff⟩
  rw [List.map_map]
  exact items_eq

theorem admitted_cutShort (entry : RoomEntry) (name_free : 0 ∉ name) (reserved : UInt8)
    (entries : List Roster.Entry)
    (cut_le : cut ≤ (Roster.payload name reserved entries []).length) :
    (entry.cutShort name reserved entries cut).admitted =
      (entries.take (min entry.announced ((cut - (name.length + 2)) / 67))).map (·.member) := by
  have announced_eq : (entry.cutShort name reserved entries cut).announced = entry.announced := rfl
  by_cases late : name.length + 2 ≤ cut
  · rcases entry.opens_cutShort name_free reserved entries cut_le late with
      ⟨roster, failures, opened, items_eq, -⟩
    rw [admitted, announced_eq, opened]
    exact Roster.members_of_items items_eq
  · have early : cut < name.length + 2 := Nat.lt_of_not_le late
    have nothing_whole : (cut - (name.length + 2)) / 67 = 0 := by omega
    rcases ofBytes_cut_name name_free reserved entries entry.announced early with
      ⟨shortfall, unopened⟩
    rw [admitted, announced_eq, nothing_whole, Nat.min_zero, cutShort, unopened]
    rfl

theorem failure_cutShort_eq_none_iff (entry : RoomEntry) (name_free : 0 ∉ name)
    (reserved : UInt8) (entries : List Roster.Entry)
    (cut_le : cut ≤ (Roster.payload name reserved entries []).length) :
    (entry.cutShort name reserved entries cut).script.failure = none ↔
      name.length + 2 ≤ cut ∧ entry.announced ≤ (cut - (name.length + 2)) / 67 := by
  have announced_eq : (entry.cutShort name reserved entries cut).announced = entry.announced := rfl
  rw [failure_script, announced_eq]
  by_cases late : name.length + 2 ≤ cut
  · rcases entry.opens_cutShort name_free reserved entries cut_le late with
      ⟨roster, failures, opened, items_eq, complete_iff⟩
    rw [opened]
    simp only [Roster.shortfall?_eq_none_iff items_eq, complete_iff, late, true_and]
  · rcases ofBytes_cut_name name_free reserved entries entry.announced
      (Nat.lt_of_not_le late) with ⟨shortfall, unopened⟩
    rw [cutShort, unopened]
    simp [late]

theorem events_cutShort (entry : RoomEntry) (name_free : 0 ∉ name) (reserved : UInt8)
    (entries : List Roster.Entry)
    (cut_le : cut ≤ (Roster.payload name reserved entries []).length)
    (late : name.length + 2 ≤ cut)
    (enough : entry.announced ≤ (cut - (name.length + 2)) / 67) :
    Script.eventsAmong (entry.cutShort name reserved entries cut).script.effects =
      [.entry (entry.event (Utf8.decode name))] := by
  rcases entry.opens_cutShort name_free reserved entries cut_le late with
    ⟨roster, failures, opened, items_eq, complete_iff⟩
  exact events_script_of_complete opened
    ((Roster.shortfall?_eq_none_iff items_eq).mpr (complete_iff.mpr enough))

end RoomEntry

namespace Session

/-- The law of cut rosters. A room entry whose payload ends after `cut` bytes is accepted exactly if
the name of the room and all announced members stand in front of the cut. Either way the room is set
up anew, and the announced members in front of the cut are in it, the last record of each account.
An accepted entry is published, once; a refused one is not, and the error tells where the payload
ends. -/
theorem handle_cut_roster (session : Session) (entry : RoomEntry) {name : List UInt8}
    (reserved : UInt8) (entries : List Roster.Entry) (cut : Nat) (name_free : 0 ∉ name)
    (cut_le : cut ≤ (Roster.payload name reserved entries []).length) :
    let message : Message := .roomEntry (entry.cutShort name reserved entries cut)
    let announced := entry.memberCount.toInt.toNat
    let whole := (cut - (name.length + 2)) / 67
    let handled := session.handle message
    (handled.1 = .ok () ↔ name.length + 2 ≤ cut ∧ announced ≤ whole) ∧
      (∃ roster : Table Member,
        (∀ id, roster.get? id = latest? (fun member => if member.id = id then some member else none)
          ((entries.take (min announced whole)).map (·.member))) ∧
        handled.2.store =
          { session.store with
            rooms := session.store.rooms.insert entry.room
              { id := entry.room, clan := entry.clan, members := roster } }) ∧
      handled.2.sent = session.sent ∧
      (handled.1 = .ok () →
        handled.2.feed = session.feed.publish (.entry (entry.event (Utf8.decode name)))) ∧
      ∀ malformed, handled.1 = .error malformed →
        handled.2.feed = session.feed ∧ malformed.kind = .roomEntry ∧
          malformed.cause.offset + malformed.cause.available = cut ∧
          malformed.cause.available < malformed.cause.needed := by
  intro message announced whole handled
  let cutEntry := entry.cutShort name reserved entries cut
  have result_eq : handled.1 = outcome message cutEntry.script := handle_result session message
  have accepted_iff : handled.1 = .ok () ↔ cutEntry.script.failure = none := by
    rw [result_eq, outcome]
    cases cutEntry.script.failure <;> simp
  have complete_iff := entry.failure_cutShort_eq_none_iff name_free reserved entries cut_le
  have feed_eq : handled.2.feed =
      (Script.eventsAmong cutEntry.script.effects).foldl Feed.publish session.feed :=
    handle_feed session message
  refine ⟨accepted_iff.trans complete_iff, ?_, ?_, ?_, ?_⟩
  · rcases session.store.applyAll_entry cutEntry with ⟨roster, get?_eq, store_eq⟩
    refine ⟨roster, ?_, (handle_store session message).trans store_eq⟩
    intro id
    rw [get?_eq, entry.admitted_cutShort name_free reserved entries cut_le]
    rfl
  · have no_requests : (message.script session.settings session.self).requests = [] :=
      cutEntry.requests_script
    rw [handle_sent, no_requests, ite_self, List.append_nil]
  · intro accepted
    obtain ⟨late, enough⟩ := complete_iff.mp (accepted_iff.mp accepted)
    rw [feed_eq, entry.events_cutShort name_free reserved entries cut_le late enough]
    rfl
  · intro malformed refused
    cases failed : cutEntry.script.failure with
    | none =>
        rw [accepted_iff.mpr failed] at refused
        cases refused
    | some shortfall =>
        have length_eq : cutEntry.payload.length = cut := List.length_take_of_le cut_le
        have exact_at := RoomEntry.exact_failure failed
        rw [length_eq] at exact_at
        simp only [result_eq, outcome, failed] at refused
        cases refused
        refine ⟨?_, rfl, exact_at.ends, exact_at.lacks⟩
        rw [feed_eq, RoomEntry.events_script_of_failure failed]
        rfl

/-- One byte of the second member's padding is missing: the entry is refused, and only the first
member is in the room. -/
theorem handle_cut_roster_of_missing_padding :
    let guest : Roster.Entry :=
      { member := ⟨⟨5⟩, ⟨8⟩, ⟨0⟩⟩, padding := [0, 0, 0, 0, 0, 0], padding_length := rfl }
    let speaker : Roster.Entry :=
      { member := ⟨⟨6⟩, ⟨8⟩, ⟨0⟩⟩, padding := [1, 2, 3, 4, 5, 6], padding_length := rfl }
    let entry : RoomEntry := { (default : RoomEntry) with memberCount := 2 }
    let message : Message := .roomEntry (entry.cutShort [0x61] 0 [guest, speaker] 136)
    let handled := (default : Session).handle message
    0 ∉ [(0x61 : UInt8)] ∧ 136 ≤ (Roster.payload [0x61] 0 [guest, speaker] []).length ∧
      handled.1 ≠ .ok () ∧
      ∃ room, handled.2.store.rooms.get? entry.room = some room ∧
        room.members.get? ⟨5⟩ = some guest.member ∧ room.members.get? ⟨6⟩ = none := by
  intro guest speaker entry message handled
  have cut_le : 136 ≤ (Roster.payload [0x61] 0 [guest, speaker] []).length := by
    rw [RoomEntry.length_payload]
    decide
  obtain ⟨accepted_iff, ⟨roster, get?_eq, store_eq⟩, -⟩ :=
    handle_cut_roster default entry 0 [guest, speaker] 136 (by decide) cut_le
  refine ⟨by decide, cut_le, ?_, ⟨entry.room, entry.clan, roster⟩, ?_, get?_eq ⟨5⟩, get?_eq ⟨6⟩⟩
  · rw [ne_eq, accepted_iff]
    decide
  · rw [store_eq, Table.get?_insert, if_pos rfl]

end Session

end Presence
