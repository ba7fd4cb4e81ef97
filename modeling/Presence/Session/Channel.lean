import Presence.Event

/-!
# Channels

Events wait in a channel on their way from the session to its subscriber. The session and the
subscriber see of it no more than its two ends: publishers put events in at one end, and the
subscriber takes them out at the other. `Channel` is what can be done at the ends, `LawfulChannel`
what may be relied on there: events come out in the order in which they were put in, and an end
answers that there is no event only when none waits.
-/

namespace Presence

/-- Why there was no event to be had at once. -/
inductive Lack where
  /-- No event waits, but there are publishers. -/
  | empty
  /-- No event waits, and there are no publishers any more. -/
  | disconnected
deriving DecidableEq

/-- What somebody finds who waits for an event and takes one look. -/
inductive Look where
  /-- The next event, or that none will come any more. -/
  | ready (next : Option Event)
  /-- Nothing so far. -/
  | pending
deriving DecidableEq

/-- The two ends of a channel. -/
class Channel (κ : Type) where
  /-- A new channel, with one publisher and a subscriber. -/
  fresh : κ
  /-- The events that wait to be taken out, the oldest first. -/
  waiting : κ → List Event
  /-- The number of publishers. -/
  publishers : κ → Nat
  /-- Whether the subscriber has gone away, as the publishers see it. -/
  isClosed : κ → Bool
  /-- Puts in an event, unless it is refused. -/
  send? : κ → Event → Option κ
  /-- Takes out the next event if there is one at once. -/
  tryReceive : κ → Except Lack Event × κ
  /-- Waits for the next event: one look of the wait. -/
  receive : κ → Look × κ
  /-- One look for the next event, by whoever does the waiting. -/
  pollReceive : κ → Look × κ
  /-- One more publisher. -/
  join : κ → κ
  /-- One publisher less. -/
  leave : κ → κ
  /-- The subscriber goes away. -/
  unsubscribe : κ → κ

namespace Channel

variable {κ : Type} [Channel κ]

/-- What goes on in between has changed nothing about who is at the ends. -/
structure SameEnds (before after : κ) : Prop where
  publishers_eq : publishers after = publishers before
  isClosed_eq : isClosed after = isClosed before

namespace SameEnds

theorem refl (channel : κ) : SameEnds channel channel := ⟨rfl, rfl⟩

theorem trans {first second third : κ} (before : SameEnds first second)
    (after : SameEnds second third) : SameEnds first third where
  publishers_eq := after.publishers_eq.trans before.publishers_eq
  isClosed_eq := after.isClosed_eq.trans before.isClosed_eq

end SameEnds

/-- What a look finds is true: the event is the oldest one and is taken out, nothing waits if there
is no event, and there are publishers just if an event may still come. -/
def Finds (before after : κ) : Look → Prop
  | .ready (some event) => waiting before = event :: waiting after
  | .ready none => waiting before = [] ∧ waiting after = [] ∧ publishers before = 0
  | .pending => waiting before = [] ∧ waiting after = [] ∧ publishers before ≠ 0

end Channel

open Channel

/-- What is relied on at the ends of a channel. -/
class LawfulChannel (κ : Type) [Channel κ] : Prop where
  waiting_fresh : waiting (fresh : κ) = []
  publishers_fresh : publishers (fresh : κ) = 1
  isClosed_fresh : isClosed (fresh : κ) = false
  /-- Events are refused only if the subscriber has gone away. -/
  isSome_send? : ∀ {channel : κ} (event : Event), isClosed channel = false →
    (send? channel event).isSome
  /-- First in: an event waits behind those that came before it. -/
  waiting_send? : ∀ {channel sent : κ} {event : Event}, send? channel event = some sent →
    waiting sent = waiting channel ++ [event]
  sameEnds_send? : ∀ {channel sent : κ} {event : Event}, send? channel event = some sent →
    SameEnds channel sent
  /-- First out: the event taken out is the one that has waited longest. -/
  waiting_of_tryReceive_ok : ∀ {channel rest : κ} {event : Event},
    tryReceive channel = (.ok event, rest) → waiting channel = event :: waiting rest
  /-- No event is to be had only if none waits. -/
  waiting_of_tryReceive_error : ∀ {channel rest : κ} {lack : Lack},
    tryReceive channel = (.error lack, rest) → waiting channel = [] ∧ waiting rest = []
  sameEnds_tryReceive : ∀ channel : κ, SameEnds channel (tryReceive channel).2
  finds_receive : ∀ channel : κ, Finds channel (receive channel).2 (receive channel).1
  sameEnds_receive : ∀ channel : κ, SameEnds channel (receive channel).2
  finds_pollReceive : ∀ channel : κ,
    Finds channel (pollReceive channel).2 (pollReceive channel).1
  sameEnds_pollReceive : ∀ channel : κ, SameEnds channel (pollReceive channel).2
  publishers_join : ∀ channel : κ, publishers (join channel) = publishers channel + 1
  waiting_leave : ∀ channel : κ, waiting (leave channel) = waiting channel
  publishers_leave : ∀ channel : κ, publishers (leave channel) = publishers channel - 1
  isClosed_leave : ∀ channel : κ, isClosed (leave channel) = isClosed channel
  publishers_unsubscribe : ∀ channel : κ, publishers (unsubscribe channel) = publishers channel

end Presence
