import Presence.Message
import Presence.Script.People
import Presence.Script.Rooms
import Presence.Settings.Basic

/-!
# The script of a message

What each kind of message makes the session do.
-/

namespace Presence.Message

/-- What a message makes the session do that is logged in as `self`. -/
def body (settings : SessionSettings) (self : AccountId) : Message → Script
  | .accountInfo =>
      { effects :=
          if settings.asksForSelf then [.request (.personas settings.selfFields [self])] else [] }
  | .friendList list => list.script settings.friendFields
  | .personaList list => list.script self
  | .clanState state => state.script
  | .friendLine line => .announce (.line line.event)
  | .roomLine line => .announce (.line line.event)
  | .roomEntry entry => entry.script
  | .memberReport report => report.script
  | .roomActionOutcome outcome => .announce (.roomActionOutcome outcome)
  | .invitation received => .announce (.invitation received)
  | .friendAnswer answer => .announce (.friendAnswer answer)
  | .ignoreAnswer result => .announce (.ignoreAnswer result)
  | .profile received => .announce (.profile received)
  | .other code payload => { effects := [.note (.messageIgnored code payload.length)] }

/-- Dealing with a message begins with a remark for the log. -/
def script (settings : SessionSettings) (self : AccountId) (message : Message) : Script :=
  let body := message.body settings self
  { body with effects := .note .dispatching :: body.effects }

end Presence.Message
