import Presence.Account
import Presence.Flags.Kinds
import Presence.Registry.Person
import Presence.Registry.Room

/-!
# Requests to the service

What the session asks of the service. A request is handed to the link as a value; bringing it onto
the wire is the link's business.
-/

namespace Presence

/-- A request to the service. -/
inductive Request where
  /-- Shows a new availability, and possibly a new name. -/
  | changeStatus (status : Wire Status) (name : Option String)
  /-- Sends a chat line to one person. -/
  | friendLine (recipient : AccountId) (kind : Wire LineKind) (text : List UInt8)
  /-- Sends a chat line to a room. -/
  | roomLine (room sender : AccountId) (kind : Wire LineKind) (text : List UInt8)
  /-- Asks somebody to become a friend, or agrees to it. -/
  | addFriend (id : AccountId)
  | removeFriend (id : AccountId)
  | setIgnored (self friend : AccountId) (ignored : Bool)
  /-- Asks for the personas of some accounts. -/
  | personas (fields : FlagSet PersonaField) (ids : List AccountId)
  /-- Asks for the profile of an account. -/
  | profile (id : AccountId)
  | enterRoom (room : AccountId)
  /-- Reports a state change to a room. -/
  | reportMember (room : AccountId) (news : Wire MemberNews) (payload : List UInt8)
  /-- Asks to act on a member of a room. -/
  | actOnMember (room target : AccountId) (action : Wire RoomAction)
deriving DecidableEq

end Presence
