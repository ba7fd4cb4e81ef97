import Presence.Proofs.Rooms.Truncation

/-!
# Whole rosters

A session admits the members of a room while it reads the roster. One can also read the roster in
one go, the name of the room first and then as many members as are announced, and take nothing from
it unless all of it can be read. `RoomEntry.script_of_whole` and `RoomEntry.failure_of_broken` say
what the one way of reading has to do with the other.
-/

namespace Presence

namespace Roster

/-- Reads members, each of them with the bytes that follow it. -/
def readMembers : (count : Nat) → Reader (List Member)
  | 0 => return []
  | count + 1 => do
      let member ← readMember
      let others ← readMembers count
      return member :: others

/-- Reads the name of a room and all the members that are announced. -/
def readWhole (count : Nat) : Reader (String × List Member) := do
  let name ← readName
  let members ← readMembers count
  return (name, members)

variable {cursor reached : Cursor} {count : Nat} {members : List Member} {shortfall : Shortfall}

theorem itemsAt_of_readMembers
    (reading : (readMembers count).readAt cursor = (.ok members, reached)) :
    (itemsAt cursor count).map (·.1) = members.map .ok := by
  induction count generalizing cursor members with
  | zero =>
      simp only [readMembers, Reader.readAt_pure] at reading
      cases reading
      rfl
  | succ count ih =>
      rcases Reader.readAt_bind_ok reading with ⟨member, between, first_reading, reading⟩
      rcases Reader.readAt_bind_ok reading with ⟨others, last, rest_reading, reading⟩
      rw [Reader.readAt_pure] at reading
      cases reading
      rw [itemsAt, first_reading]
      simp only [List.map_cons, ih rest_reading]

/-- Where the members cannot all be read, the ones in front of the first failure can. -/
theorem itemsAt_of_readMembers_error
    (reading : (readMembers count).readAt cursor = (.error shortfall, reached)) :
    ∃ front : List Member,
      (itemsAt cursor count).map (·.1) = front.map .ok ++ [shortfall].map .error := by
  induction count generalizing cursor with
  | zero =>
      simp only [readMembers, Reader.readAt_pure] at reading
      cases reading
  | succ count ih =>
      rcases Reader.readAt_bind_error reading with
        first_failed | ⟨member, between, first_reading, reading⟩
      · refine ⟨[], ?_⟩
        rw [itemsAt, first_failed]
        rfl
      · rcases Reader.readAt_bind_error reading with
          rest_failed | ⟨others, last, rest_reading, reading⟩
        · rcases ih rest_failed with ⟨front, items_eq⟩
          refine ⟨member :: front, ?_⟩
          rw [itemsAt, first_reading]
          simp only [List.map_cons, items_eq, List.cons_append]
        · rw [Reader.readAt_pure] at reading
          cases reading

end Roster

namespace RoomEntry

variable {entry : RoomEntry} {name : String} {members : List Member} {shortfall : Shortfall}

/-- The name of the room and all the members announced, or what the payload lacks of them. -/
def whole (entry : RoomEntry) : Except Shortfall (String × List Member) :=
  ((Roster.readWhole entry.announced).readAt { unread := entry.payload }).1

/-- A whole roster is read by and by as it is read in one go. -/
theorem opens_of_whole (whole : entry.whole = .ok (name, members)) :
    ∃ roster : Roster, Roster.ofBytes entry.payload entry.announced = .ok (name, roster) ∧
      roster.items.map (·.1) = members.map .ok ++ [].map .error := by
  rcases readAt_eq : (Roster.readWhole entry.announced).readAt { unread := entry.payload } with
    ⟨result, reached⟩
  have result_eq : result = .ok (name, members) := by rw [← whole, RoomEntry.whole, readAt_eq]
  rw [result_eq] at readAt_eq
  rcases Reader.readAt_bind_ok readAt_eq with ⟨_, opening, name_reading, reading⟩
  rcases Reader.readAt_bind_ok reading with ⟨_, last, members_reading, reading⟩
  rw [Reader.readAt_pure] at reading
  cases reading
  refine ⟨{ cursor := opening, left := entry.announced }, ?_, ?_⟩
  · rw [Roster.ofBytes, name_reading]
  · rw [List.map_nil, List.append_nil]
    exact Roster.itemsAt_of_readMembers members_reading

/-- The script of a room entry whose roster is whole. -/
theorem script_of_whole (whole : entry.whole = .ok (name, members)) :
    entry.script = {
      effects := .change (.enterRoom entry.room entry.clan) ::
        .note (.readingRoster entry.room entry.announced) ::
        members.map (fun member => .change (.seat entry.room member)) ++
        [.note (.rosterRead entry.room entry.announced), .publish (.entry (entry.event name))] } := by
  rcases opens_of_whole whole with ⟨roster, opened, items_eq⟩
  have complete : roster.shortfall? = none := (Roster.shortfall?_eq_none_iff items_eq).mpr rfl
  have members_eq : roster.members = members := Roster.members_of_items items_eq
  simp only [script, opened, complete, members_eq]

theorem admitted_of_whole (whole : entry.whole = .ok (name, members)) :
    entry.admitted = members := by
  rcases opens_of_whole whole with ⟨roster, opened, items_eq⟩
  rw [admitted, opened]
  exact Roster.members_of_items items_eq

/-- A room entry lacks what its roster lacks when it is read in one go. -/
theorem failure_of_broken (broken : entry.whole = .error shortfall) :
    entry.script.failure = some shortfall := by
  rcases readAt_eq : (Roster.readWhole entry.announced).readAt { unread := entry.payload } with
    ⟨result, reached⟩
  have result_eq : result = .error shortfall := by rw [← broken, whole, readAt_eq]
  rw [result_eq] at readAt_eq
  rw [failure_script]
  rcases Reader.readAt_bind_error readAt_eq with
    name_failed | ⟨name, opening, name_reading, reading⟩
  · rw [Roster.ofBytes, name_failed]
  · rcases Reader.readAt_bind_error reading with
      members_failed | ⟨members, last, _, reading⟩
    · let roster : Roster := { cursor := opening, left := entry.announced }
      have broken_items : ∃ front : List Member,
          roster.items.map (·.1) = front.map .ok ++ [shortfall].map .error :=
        Roster.itemsAt_of_readMembers_error members_failed
      rcases broken_items with ⟨front, items_eq⟩
      rw [Roster.ofBytes, name_reading]
      exact Roster.shortfall?_of_items items_eq
    · rw [Reader.readAt_pure] at reading
      cases reading

end RoomEntry

end Presence
