import Presence.Event
import Presence.Log
import Presence.Record.Cursor
import Presence.Request
import Presence.Store.Basic

/-!
# Scripts

What a message makes the session do is written down as a script: a list of effects in the order in
which they happen. The script depends on the message, the settings and the local account alone,
never on the store. So the store, the link to the service and the subscriber can be looked at one
by one, and at every point between two effects.
-/

namespace Presence

/-- A remark for the log. -/
inductive Note where
  /-- A message is about to be dealt with. -/
  | dispatching
  /-- A complete friend list was taken up. -/
  | listApplied
  /-- The roster of a room is about to be read. -/
  | readingRoster (room : AccountId) (announced : Nat)
  /-- The roster of a room was read. -/
  | rosterRead (room : AccountId) (announced : Nat)
  /-- A member enters a room; worth a remark if the room has not been heard of. -/
  | memberEnters (room : AccountId)
  /-- A report about the members of a room is of no interest. -/
  | reportIgnored (news : Wire MemberNews)
  /-- A message is of no interest. -/
  | messageIgnored (code : UInt32) (length : Nat)
deriving DecidableEq

/-- The log record for a remark, given what the session knows at that time. -/
def Note.record? (store : Store) : Note → Option LogRecord
  | .dispatching => some { level := .debug, message := "dispatching inbound message" }
  | .listApplied =>
      some {
        level := .debug
        message := "full friends list applied"
        fields := [("friends", toString store.friends.size),
          ("groups", toString store.clans.size)] }
  | .readingRoster room announced =>
      some {
        level := .trace
        message := "decoding room roster"
        fields := [("chat", toString room), ("pending", toString announced)] }
  | .rosterRead room announced =>
      some {
        level := .debug
        message := "room roster loaded"
        fields := [("chat", toString room), ("members", toString announced)] }
  | .memberEnters room =>
      if store.rooms.contains room then none
      else
        some {
          level := .debug
          message := "member entered a room not yet known"
          fields := [("chat", toString room)] }
  | .reportIgnored news =>
      some {
        level := .trace
        message := "ignoring member info"
        fields := [("info_type", news.label)] }
  | .messageIgnored code length =>
      some {
        level := .trace
        message := "dropping unhandled message kind"
        fields := [("kind", toString code), ("len", toString length)] }

/-- One thing that the session does. -/
inductive Effect where
  | change (change : Change)
  /-- Hands a request to the link. -/
  | request (request : Request)
  | publish (event : Event)
  | note (note : Note)
deriving DecidableEq

/-- What a message makes the session do. -/
structure Script where
  effects : List Effect := []
  /-- What the message lacks, if it is malformed; the effects before it was noticed stand. -/
  failure : Option Shortfall := none
deriving DecidableEq, Inhabited

namespace Script

/-- The script that publishes an event and does nothing else. -/
def announce (event : Event) : Script := { effects := [.publish event] }

/-- The changes to the store, in order. -/
def changes (script : Script) : List Change :=
  script.effects.filterMap fun
    | .change change => some change
    | _ => none

/-- The requests, in order. -/
def requests (script : Script) : List Request :=
  script.effects.filterMap fun
    | .request request => some request
    | _ => none

/-- The events, in order. -/
def events (script : Script) : List Event :=
  script.effects.filterMap fun
    | .publish event => some event
    | _ => none

end Script

end Presence
