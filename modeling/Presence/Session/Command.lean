import Presence.Session.Basic

/-!
# Commands

Everything that can happen to a session from outside, as data, so that a whole course of events is a
list of commands. A session that is over has lost its publisher: it takes nothing in any more, but
the events that it published can still be read.
-/

namespace Presence

/-- Something that happens to a session. -/
inductive Command where
  | receive (message : Message)
  | act (action : Action)
  /-- Somebody changes the store directly. -/
  | amend (change : Change)
  /-- The session is logged in as another account. -/
  | become (self : AccountId)
  /-- The other end of the link closes. -/
  | closeLink
  /-- The link starts to refuse everything, or stops doing so. -/
  | reject (why : Option String)
  | read (reading : Feed.Reading)
  | unsubscribe
  | finish
deriving DecidableEq

/-- What a command answers. -/
inductive Reply where
  | handled (result : Except Malformed Unit)
  | acted (result : Except LinkError Unit)
  /-- Whether a change found what it was about. -/
  | amended (found : Bool)
  | read (answer : Feed.Answer)
  /-- There is nothing to say. -/
  | done
  /-- The session is over. -/
  | over

namespace Session

variable {κ : Type} [Channel κ]

/-- Whether the session is over. -/
def isOver (session : Session κ) : Bool := Channel.publishers session.feed = 0

/-- The store, as long as the session is not over. -/
def store? (session : Session κ) : Option Store :=
  if session.isOver then none else some session.store

variable [LawfulChannel κ]

/-- What happens to a session that is not over. -/
def executeLive (session : Session κ) : Command → Reply × Session κ
  | .receive message =>
      let (result, next) := session.handle message
      (.handled result, next)
  | .act action =>
      let (result, next) := session.act action
      (.acted result, next)
  | .amend change =>
      (.amended (session.store.suits change),
        { session with store := session.store.apply change })
  | .become self => (.done, { session with self })
  | .closeLink => (.done, { session with link := { session.link with closed := true } })
  | .reject why => (.done, { session with link := { session.link with rejecting := why } })
  | .read reading =>
      let (answer, feed) := Channel.read session.feed reading
      (.read answer, { session with feed })
  | .unsubscribe => (.done, { session with feed := Channel.unsubscribe session.feed })
  | .finish => (.done, { session with feed := Channel.leave session.feed })

/-- What a command does. When the session is over, whatever needs it answers just that; the link and
the feed have a life of their own, and the end of a session may be asked for again. -/
def execute (session : Session κ) (command : Command) : Reply × Session κ :=
  match command with
  | .receive _ | .act _ | .amend _ =>
      if session.isOver then (.over, session) else session.executeLive command
  | .become _ | .closeLink | .reject _ | .read _ | .unsubscribe | .finish =>
      session.executeLive command

end Session

end Presence
