import Presence.Record.Roster
import Presence.Record.StateChange
import Presence.Script.Basic

/-!
# Scripts of messages about chat rooms

On entry a room is set up anew and its members are admitted as their records are read, so that the
members in front of an incomplete record stay. State changes then seat and dismiss single members.
-/

namespace Presence

/-- The event that tells of a line from one person. -/
def FriendLine.event (line : FriendLine) : LineEvent where
  room := none
  sender := line.sender
  text := Utf8.decodeUntilZero line.text
  kind := line.kind
  time := some line.time

/-- The event that tells of a line in a room. -/
def RoomLine.event (line : RoomLine) : LineEvent where
  room := some line.room
  sender := line.sender
  text := Utf8.decodeUntilZero line.text
  kind := line.kind
  time := none

namespace RoomEntry

/-- The number of members announced; none if the number is negative. -/
def announced (entry : RoomEntry) : Nat := entry.memberCount.toInt.toNat

/-- The event that tells of the entry into the room of the given name. -/
def event (entry : RoomEntry) (name : String) : EntryEvent where
  room := entry.room
  friend := entry.friend
  kind := entry.kind
  owner := entry.owner
  clan := entry.clan
  flags := entry.flags
  answer := entry.answer
  name

/-- The room is set up anew; its members are admitted one by one; the entry is published only if
the roster is complete. -/
def script (entry : RoomEntry) : Script :=
  let setUp : Effect := .change (.enterRoom entry.room entry.clan)
  match Roster.ofBytes entry.payload entry.announced with
  | .error shortfall => { effects := [setUp], failure := some shortfall }
  | .ok (name, roster) =>
      let admissions := roster.members.map fun member =>
        Effect.change (.seat entry.room member)
      let reading := setUp :: .note (.readingRoster entry.room entry.announced) :: admissions
      match roster.shortfall? with
      | some shortfall => { effects := reading, failure := some shortfall }
      | none =>
          { effects := reading ++
              [.note (.rosterRead entry.room entry.announced),
                .publish (.entry (entry.event name))] }

end RoomEntry

namespace StateChange

/-- What the change does to a room: a member who enters is admitted as the record says, under the
account that the change names; a member who goes is dismissed. -/
def effects (room : AccountId) (change : StateChange) : List Effect :=
  match change.change, change.member with
  | .known .entered, some member =>
      [.note (.memberEnters room), .change (.seat room { member with id := change.actedOn })]
  | kind, _ =>
      if MemberChange.removes kind then [.change (.dismiss room change.actedOn)] else []

end StateChange

namespace MemberReport

/-- The event that tells of a state change. -/
def event (report : MemberReport) (change : StateChange) : MemberEvent where
  room := report.room
  news := report.news
  actedOn := change.actedOn
  change := change.change
  actedBy := change.actedBy

/-- A state change is taken up and published; any other report is ignored. -/
def script (report : MemberReport) : Script :=
  if report.news = .known .stateChange then
    match StateChange.ofBytes report.payload with
    | .error shortfall => { failure := some shortfall }
    | .ok change =>
        { effects := change.effects report.room ++ [.publish (.member (report.event change))] }
  else { effects := [.note (.reportIgnored report.news)] }

end MemberReport

end Presence
