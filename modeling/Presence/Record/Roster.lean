import Presence.Record.Member

/-!
# Rosters

On entering a room one receives its name and its roster: one member record after another, each
followed by a few bytes that mean nothing here. The number of members is announced beforehand and
need not be true. A roster is read member by member, and after the first member that is incomplete
nothing more is read.
-/

namespace Presence

/-- The part of a roster that is still to be read. -/
structure Roster where
  /-- The place at which the next member begins. -/
  cursor : Cursor
  /-- The number of members still announced. -/
  left : Nat
deriving DecidableEq

namespace Roster

/-- The length of the bytes that follow a member record. -/
def paddingLength : Nat := 6

/-- Reads what stands in front of the members: the name of the room. -/
def readName : Reader String := do
  let name ← Reader.text "room name"
  Reader.skip "roster type" Member.typeLength
  return name

/-- Opens the roster in a payload, `count` being the number of members announced. -/
def ofBytes (payload : List UInt8) (count : Nat) : Except Shortfall (String × Roster) :=
  match readName.readAt { unread := payload } with
  | (.ok name, cursor) => .ok (name, { cursor, left := count })
  | (.error shortfall, _) => .error shortfall

/-- Reads a member and the bytes that follow the record. -/
def readMember : Reader Member := do
  let member ← Member.read
  Reader.skip "roster entry padding" paddingLength
  return member

/-- The next member and the rest of the roster. -/
def next? (roster : Roster) : Option (Except Shortfall Member × Roster) :=
  match roster.left with
  | 0 => none
  | left + 1 =>
      match readMember.readAt roster.cursor with
      | (.ok member, cursor) => some (.ok member, { cursor, left })
      | (.error shortfall, cursor) => some (.error shortfall, { cursor, left := 0 })

/-- The members at a cursor, at most as many as announced, each with the roster as it is after
reading the member; the last one may be incomplete. -/
def itemsAt (cursor : Cursor) : (left : Nat) → List (Except Shortfall Member × Roster)
  | 0 => []
  | left + 1 =>
      match readMember.readAt cursor with
      | (.ok member, next) => (.ok member, { cursor := next, left }) :: itemsAt next left
      | (.error shortfall, next) => [(.error shortfall, { cursor := next, left := 0 })]

/-- All members that are left, as repeated calls of `next?` give them. -/
def items (roster : Roster) : List (Except Shortfall Member × Roster) :=
  itemsAt roster.cursor roster.left

/-- The members of the roster, up to the first that is incomplete. -/
def members (roster : Roster) : List Member :=
  roster.items.filterMap fun item => item.1.toOption

/-- What is missing of the first member that is incomplete. -/
def shortfall? (roster : Roster) : Option Shortfall :=
  roster.items.findSome? fun item =>
    match item.1 with
    | .ok _ => none
    | .error shortfall => some shortfall

theorem items_eq (roster : Roster) :
    roster.items = match roster.next? with
      | none => []
      | some (item, rest) => (item, rest) :: rest.items := by
  obtain ⟨cursor, left⟩ := roster
  cases left with
  | zero => rfl
  | succ left =>
      simp only [items, itemsAt, next?]
      split <;> simp [itemsAt]

end Roster

end Presence
