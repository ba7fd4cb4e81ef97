import Presence.Record.StateChange
import Presence.Request
import Presence.Session.Link
import Presence.Store.Persona

/-!
# Actions

What the user of a session can do. Every action comes down to one request, and a room may be named
by its clan. Only the two actions on the local persona change what the session knows, and they do so
whether or not the request can be sent.
-/

namespace Presence

/-- Something that the user of a session does. -/
inductive Action where
  | setName (name : String)
  | setStatus (status : Wire Status)
  /-- Says something to a person, to a room or to a clan. -/
  | send (recipient : AccountId) (kind : Wire LineKind) (text : String)
  /-- Asks somebody to become a friend, or agrees to it. -/
  | addFriend (id : AccountId)
  | removeFriend (id : AccountId)
  | ignoreFriend (id : AccountId) (ignored : Bool)
  /-- Asks for the personas of some accounts. -/
  | askPersonas (ids : List AccountId) (fields : FlagSet PersonaField)
  /-- Asks for the profile of an account. -/
  | askProfile (id : AccountId)
  | enterRoom (room : AccountId)
  | leaveRoom (room : AccountId)
  /-- Puts a member out of a room. -/
  | kick (room member : AccountId)
  /-- Puts a member out of a room for good. -/
  | ban (room member : AccountId)
  /-- Lets somebody who was banned back into a room. -/
  | unban (room member : AccountId)
deriving DecidableEq

namespace Action

/-- The name of an action in the log. -/
def label : Action → String
  | .setName _ => "set_persona_name"
  | .setStatus _ => "set_persona_state"
  | .send .. => "send_message"
  | .addFriend _ => "add_friend"
  | .removeFriend _ => "remove_friend"
  | .ignoreFriend .. => "ignore_friend"
  | .askPersonas .. => "request_friend_info"
  | .askProfile _ => "request_profile_info"
  | .enterRoom _ => "join_chat"
  | .leaveRoom _ => "leave_chat"
  | .kick .. => "kick_chat_member"
  | .ban .. => "ban_chat_member"
  | .unban .. => "unban_chat_member"

/-- Whom or what the action is about, if that is one account. -/
def target? : Action → Option AccountId
  | .setName _ | .setStatus _ | .askPersonas .. => none
  | .send id .. | .addFriend id | .removeFriend id | .ignoreFriend id _ | .askProfile id
  | .enterRoom id | .leaveRoom id => some id
  | .kick _ member | .ban _ member | .unban _ member => some member

/-- What the action changes about the local persona. -/
def personaEdits : Action → List Persona.Edit
  | .setName name => [.name name]
  | .setStatus status => [.status status]
  | _ => []

/-- The reason why an account that is neither a person nor a room nor a clan gets no message. -/
def cannotReceive (kind : Wire AccountKind) : String :=
  s!"cannot message account type {kind.label}"

/-- The request that says something. People are addressed directly, rooms and clans through the
room. -/
def line (self recipient : AccountId) (kind : Wire LineKind) (text : String) :
    Except LinkError Request :=
  match recipient.kind with
  | .known .individual | .known .consoleUser =>
      .ok (.friendLine recipient kind (Utf8.encode text))
  | .known .clan | .known .chat =>
      .ok (.roomLine recipient.toRoom self kind (Utf8.encode text))
  | other => .error (.rejected (cannotReceive other))

/-- The report to a room that one leaves it. -/
def farewell (self : AccountId) : StateChange where
  actedOn := self
  change := .known .left
  actedBy := self

/-- The request that the action comes down to, `persona` being the local persona as the action has
left it. -/
def request (self : AccountId) (persona : Persona) : Action → Except LinkError Request
  | .setName name => .ok (.changeStatus persona.status (some name))
  | .setStatus status => .ok (.changeStatus status none)
  | .send recipient kind text => line self recipient kind text
  | .addFriend id => .ok (.addFriend id)
  | .removeFriend id => .ok (.removeFriend id)
  | .ignoreFriend id ignored => .ok (.setIgnored self id ignored)
  | .askPersonas ids fields => .ok (.personas fields ids)
  | .askProfile id => .ok (.profile id)
  | .enterRoom room => .ok (.enterRoom room.toRoom)
  | .leaveRoom room =>
      .ok (.reportMember room.toRoom (.known .stateChange) (farewell self).bytes)
  | .kick room member => .ok (.actOnMember room.toRoom member (.known .kick))
  | .ban room member => .ok (.actOnMember room.toRoom member (.known .ban))
  | .unban room member => .ok (.actOnMember room.toRoom member (.known .unBan))

end Action

end Presence
