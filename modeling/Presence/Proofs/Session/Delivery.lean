import Presence.Proofs.Session.Course

/-!
# Events reach the subscriber once and in order

However a subscriber mixes the ways of reading with what happens to the session, the events that
were read, together with those that still wait, are the events that were published, in their order,
`Session.delivered_in_order`. Whoever waits for an event is told that none will come any more only
when the session is over and everything has been read.
-/

namespace Presence

/-- The events that a reply hands over. -/
def Reply.delivered : Reply → List Event
  | .read answer => answer.delivered
  | _ => []

namespace Command

def unsubscribes : Command → Bool
  | .unsubscribe => true
  | _ => false

/-- The events that tell of a course of events: those of all commands before the session is over. -/
def publications (commands : List Command) : List Event :=
  (commands.takeWhile fun command => !command.ends).flatMap published

theorem publications_cons (command : Command) (rest : List Command) :
    publications (command :: rest) =
      command.published ++ if command.ends then [] else publications rest := by
  cases ends : command.ends with
  | false => simp [publications, ends]
  | true =>
      rw [eq_finish_of_ends ends]
      rfl

end Command

variable {κ : Type} [Channel κ] [LawfulChannel κ]

theorem Channel.isClosed_onChannel (channel : κ) {command : Command}
    (listened : command.unsubscribes = false) :
    isClosed (command.onChannel channel) = isClosed channel := by
  cases command with
  | receive message => exact (sameEnds_foldl_publish channel _).isClosed_eq
  | read reading => exact (sameEnds_read channel reading).isClosed_eq
  | unsubscribe => cases listened
  | finish => exact LawfulChannel.isClosed_leave channel
  | _ => rfl

namespace Session

/-- The session with a new channel, in which nothing has been published. -/
def unheard (session : Session κ) : Session κ := { session with feed := Channel.fresh }

variable {session : Session κ} {command : Command}

/-- Somebody reads from the channel of a session, and nobody else publishes in it. -/
structure Attended (session : Session κ) : Prop where
  there : Channel.isClosed session.feed = false
  alone : Channel.publishers session.feed ≤ 1

theorem attended_unheard (session : Session κ) : session.unheard.Attended where
  there := LawfulChannel.isClosed_fresh
  alone := Nat.le_of_eq LawfulChannel.publishers_fresh

theorem waiting_unheard (session : Session κ) : Channel.waiting session.unheard.feed = [] :=
  LawfulChannel.waiting_fresh

theorem isOver_unheard (session : Session κ) : session.unheard.isOver = false := by
  simp [isOver, unheard, LawfulChannel.publishers_fresh]

theorem Attended.execute (attended : session.Attended) (listened : command.unsubscribes = false) :
    (session.execute command).2.Attended := by
  rcases session.execute_cases command with idle | executed
  · rw [idle]
    exact attended
  · rw [executed]
    constructor
    · rw [executeLive_channel, Channel.isClosed_onChannel _ listened]
      exact attended.there
    · rw [executeLive_channel]
      cases ends : command.ends with
      | false =>
          rw [Channel.publishers_onChannel _ ends]
          exact attended.alone
      | true =>
          rw [Command.eq_finish_of_ends ends, Command.onChannel, LawfulChannel.publishers_leave]
          exact Nat.le_trans (Nat.sub_le ..) attended.alone

theorem Attended.isOver_execute (attended : session.Attended) (command : Command) :
    (session.execute command).2.isOver = (session.isOver || command.ends) := by
  cases ends : command.ends with
  | false => rw [session.isOver_execute ends, Bool.or_false]
  | true =>
      have none_left : Channel.publishers (Channel.leave session.feed) = 0 := by
        rw [LawfulChannel.publishers_leave]
        exact Nat.sub_eq_zero_of_le attended.alone
      rw [Command.eq_finish_of_ends ends, Bool.or_true]
      exact decide_eq_true none_left

/-- What is delivered in answer to a command stood in front of what was waiting, and what the
command publishes comes behind it. -/
theorem Attended.delivered_execute (attended : session.Attended)
    (listened : command.unsubscribes = false) :
    (session.execute command).1.delivered ++ Channel.waiting (session.execute command).2.feed =
      Channel.waiting session.feed ++ if session.isOver then [] else command.published := by
  cases command with
  | receive message =>
      cases is_over : session.isOver with
      | true => simp [Session.execute, is_over, Reply.delivered]
      | false =>
          rw [execute_of_live is_over, executeLive_channel, Command.onChannel,
            Channel.waiting_foldl_publish attended.there]
          rfl
  | act action | amend change =>
      cases is_over : session.isOver with
      | true => simp [Session.execute, is_over, Reply.delivered]
      | false =>
          rw [execute_of_live is_over, executeLive_channel]
          exact (List.append_nil _).symm
  | read reading =>
      simp only [Command.published, ite_self, List.append_nil]
      exact Channel.delivered_read attended.there reading
  | unsubscribe => cases listened
  | finish =>
      simp only [Command.published, ite_self, List.append_nil]
      exact LawfulChannel.waiting_leave session.feed
  | _ =>
      simp only [Command.published, ite_self, List.append_nil]
      rfl

variable {commands : List Command}

theorem Attended.after (attended : session.Attended)
    (listened : ∀ command ∈ commands, command.unsubscribes = false) :
    (session.after commands).Attended := by
  induction commands generalizing session with
  | nil => exact attended
  | cons command rest ih =>
      rw [List.forall_mem_cons] at listened
      exact ih (attended.execute listened.1) listened.2

theorem Attended.isOver_after (attended : session.Attended)
    (listened : ∀ command ∈ commands, command.unsubscribes = false) :
    (session.after commands).isOver = (session.isOver || commands.any Command.ends) := by
  induction commands generalizing session with
  | nil => simp
  | cons command rest ih =>
      rw [List.forall_mem_cons] at listened
      rw [after_cons, ih (attended.execute listened.1) listened.2, attended.isOver_execute,
        List.any_cons, Bool.or_assoc]

/-- What is delivered in the course of events, and what is still waiting at its end, is what was
waiting before and what was published since. -/
theorem Attended.delivered_after (attended : session.Attended)
    (listened : ∀ command ∈ commands, command.unsubscribes = false) :
    (session.replies commands).flatMap Reply.delivered ++
        Channel.waiting (session.after commands).feed =
      Channel.waiting session.feed ++
        if session.isOver then [] else Command.publications commands := by
  -- Each command answers from the front of the queue that the commands before it have left.
  induction commands generalizing session with
  | nil => simp [replies, Command.publications]
  | cons command rest ih =>
      rw [List.forall_mem_cons] at listened
      have later := ih (attended.execute listened.1) listened.2
      have first := attended.delivered_execute listened.1
      rw [replies, List.flatMap_cons, after_cons, List.append_assoc, later, ← List.append_assoc,
        first, List.append_assoc, attended.isOver_execute]
      cases session.isOver with
      | true => rfl
      | false =>
          rw [Command.publications_cons, Bool.false_or]
          rfl

/-- The law of delivery. Whatever happens to a session, as long as its subscriber stays: the events
that have been read and those that wait in the channel are the events that were published before the
session was over, in their order. Draining leaves nothing behind, polling finds nothing only if
nothing waits, and whoever waits for an event waits only while there is none, and until the session
is over and all its events have been read. -/
theorem delivered_in_order (session : Session κ) (commands : List Command)
    (listened : ∀ command ∈ commands, command.unsubscribes = false) :
    let reached := session.unheard.after commands
    let delivered := (session.unheard.replies commands).flatMap Reply.delivered
    let published := Command.publications commands
    delivered ++ Channel.waiting reached.feed = published ∧
      reached.isOver = commands.any Command.ends ∧
      Channel.waiting (reached.execute (.read .drain)).2.feed = [] ∧
      ((reached.execute (.read .poll)).1 = .read (.event? none) ↔
        Channel.waiting reached.feed = []) ∧
      ∀ reading : Feed.Reading, reading.waits →
        ((reached.execute (.read reading)).1 = .read .ended ↔
          reached.isOver ∧ delivered = published) ∧
        ((reached.execute (.read reading)).1 = .read .pending ↔
          reached.isOver = false ∧ Channel.waiting reached.feed = []) := by
  intro reached delivered published
  have attended : reached.Attended := session.attended_unheard.after listened
  have delivered_eq : delivered ++ Channel.waiting reached.feed = published := by
    have law := session.attended_unheard.delivered_after listened
    rw [session.waiting_unheard, session.isOver_unheard] at law
    exact law
  have all_read : delivered = published ↔ Channel.waiting reached.feed = [] := by
    rw [← delivered_eq, List.self_eq_append_right]
  have over_iff : reached.isOver ↔ Channel.publishers reached.feed = 0 := decide_eq_true_iff
  have live_iff : reached.isOver = false ↔ Channel.publishers reached.feed ≠ 0 :=
    decide_eq_false_iff_not
  have answer_eq (reading : Feed.Reading) :
      (reached.execute (.read reading)).1 = .read (Channel.read reached.feed reading).1 := rfl
  refine ⟨delivered_eq, ?_, Channel.waiting_read_drain attended.there, ?_, ?_⟩
  · rw [session.attended_unheard.isOver_after listened, session.isOver_unheard, Bool.false_or]
  · rw [answer_eq, Reply.read.injEq]
    exact Channel.poll_eq_none_iff attended.there
  · intro reading waits
    constructor
    · rw [answer_eq, Reply.read.injEq, over_iff, all_read]
      exact Channel.read_eq_ended_iff attended.there waits
    · rw [answer_eq, Reply.read.injEq, live_iff]
      exact Channel.read_eq_pending_iff attended.there waits

/-- A list of changes tells of two friends; one event is read before the session is over, the other
one after it, and then there is nothing to wait for. -/
theorem delivered_in_order_of_finished_session :
    let first : AccountId := ⟨0x110000100000002⟩
    let second : AccountId := ⟨0x110000100000003⟩
    let session : Session := { self := ⟨0x110000100000001⟩ }
    let commands : List Command := [
      .receive (.friendList ⟨true, [⟨first, 3⟩, ⟨second, 3⟩]⟩), .read .poll, .finish,
      .receive (.friendList ⟨true, [⟨first, 0⟩]⟩), .read .next]
    (∀ command ∈ commands, command.unsubscribes = false) ∧
      (session.unheard.replies commands).flatMap Reply.delivered =
        [.friendRelation first (.known .friend), .friendRelation second (.known .friend)] ∧
      ((session.unheard.after commands).execute (.read .receive)).1 = .read .ended := by
  intro first second session commands
  have listened : ∀ command ∈ commands, command.unsubscribes = false := by decide
  have published_eq : Command.publications commands =
      [.friendRelation first (.known .friend), .friendRelation second (.known .friend)] := by decide
  have nothing_left : Channel.waiting (session.unheard.after commands).feed = [] := by decide
  obtain ⟨delivered_eq, over_eq, -, -, answers⟩ := delivered_in_order session commands listened
  rw [nothing_left, List.append_nil, published_eq] at delivered_eq
  refine ⟨listened, delivered_eq, (answers .receive rfl).1.mpr ⟨?_, ?_⟩⟩
  · rw [over_eq]
    decide
  · rw [delivered_eq, published_eq]

end Session

end Presence
