import Presence.Proofs.Session.Publication
import Presence.Proofs.Session.Surroundings
import Presence.Session.Command

/-!
# Courses of events

A course of events is a list of commands, which a session executes one after another. What becomes
of the account that the session is logged in as and of the channel is known from the commands alone,
`Session.executeLive_self` and `Session.executeLive_channel`. A session that is not over stays so
until a command ends it.
-/

namespace Presence

/-! ### What a command does to the account and to the channel -/

namespace Command

/-- The account that a session is logged in as after a command. -/
def onSelf (self : AccountId) : Command → AccountId
  | .become other => other
  | _ => self

/-- The events that tell of a command. -/
def published : Command → List Event
  | .receive message => message.published
  | _ => []

/-- What a command makes of the channel of a session that is not over. -/
def onChannel {κ : Type} [Channel κ] [LawfulChannel κ] (channel : κ) : Command → κ
  | .receive message => message.published.foldl Channel.publish channel
  | .read reading => (Channel.read channel reading).2
  | .unsubscribe => Channel.unsubscribe channel
  | .finish => Channel.leave channel
  | _ => channel

/-- Whether a command ends the session. -/
def ends : Command → Bool
  | .finish => true
  | _ => false

theorem eq_finish_of_ends {command : Command} (ends : command.ends) : command = .finish := by
  cases command with
  | finish => rfl
  | _ => cases ends

end Command

variable {κ : Type} [Channel κ] [LawfulChannel κ]

theorem Channel.publishers_onChannel (channel : κ) {command : Command}
    (goes_on : command.ends = false) :
    publishers (command.onChannel channel) = publishers channel := by
  cases command with
  | receive message => exact (sameEnds_foldl_publish channel _).publishers_eq
  | read reading => exact (sameEnds_read channel reading).publishers_eq
  | unsubscribe => exact LawfulChannel.publishers_unsubscribe channel
  | finish => cases goes_on
  | _ => rfl

namespace Session

/-- The session after some commands, whatever they answer. -/
def after (session : Session κ) (commands : List Command) : Session κ :=
  commands.foldl (fun reached command => (reached.execute command).2) session

@[simp]
theorem after_nil (session : Session κ) : session.after [] = session := rfl

@[simp]
theorem after_cons (session : Session κ) (command : Command) (rest : List Command) :
    session.after (command :: rest) = (session.execute command).2.after rest := rfl

/-- What a session answers to some commands, one after another. -/
def replies (session : Session κ) : List Command → List Reply
  | [] => []
  | command :: rest => (session.execute command).1 :: (session.execute command).2.replies rest

variable {session : Session κ}

theorem executeLive_self (session : Session κ) (command : Command) :
    (session.executeLive command).2.self = command.onSelf session.self := by
  cases command with
  | receive message => exact session.handle_self message
  | act action => exact act_unchanged self (fun _ _ _ _ => rfl) session action
  | _ => rfl

theorem executeLive_channel (session : Session κ) (command : Command) :
    (session.executeLive command).2.feed = command.onChannel session.feed := by
  cases command with
  | receive message =>
      have published_eq := message.events_script session.settings session.self
      exact (session.handle_channel message).trans (by rw [published_eq]; rfl)
  | act action => exact act_unchanged feed (fun _ _ _ _ => rfl) session action
  | _ => rfl

theorem execute_of_live (live : session.isOver = false) (command : Command) :
    session.execute command = session.executeLive command := by
  cases command with
  | receive message | act action | amend change => simp [execute, live]
  | _ => rfl

/-- Whether a session is over does not change before a command ends it. -/
theorem isOver_execute (session : Session κ) {command : Command} (goes_on : command.ends = false) :
    (session.execute command).2.isOver = session.isOver := by
  rcases session.execute_cases command with idle | executed
  · rw [idle]
  · rw [executed, isOver, executeLive_channel, Channel.publishers_onChannel _ goes_on]
    rfl

theorem isOver_after (session : Session κ) {commands : List Command}
    (go_on : ∀ command ∈ commands, command.ends = false) :
    (session.after commands).isOver = session.isOver := by
  induction commands generalizing session with
  | nil => rfl
  | cons command rest ih =>
      rw [List.forall_mem_cons] at go_on
      rw [after_cons, ih _ go_on.2, session.isOver_execute go_on.1]

end Session

end Presence
