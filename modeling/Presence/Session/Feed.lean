import Presence.Session.Ends

/-!
# The event feed

The channel that a session has unless it is given another one: a queue that never is full. With its
subscriber the events that wait in it go away.
-/

namespace Presence

/-- The events between the publishers and the subscriber. -/
structure Feed where
  /-- The events that wait to be read, the oldest first. -/
  pending : List Event := []
  publishers : Nat := 1
  /-- Whether the subscriber is still there. -/
  subscribed : Bool := true
deriving DecidableEq, Inhabited

namespace Feed

/-- Publishes an event; without a subscriber it is lost. -/
def publish (feed : Feed) (event : Event) : Feed :=
  if feed.subscribed then { feed with pending := feed.pending ++ [event] } else feed

/-- One more publisher. -/
def join (feed : Feed) : Feed := { feed with publishers := feed.publishers + 1 }

/-- One publisher less. -/
def leave (feed : Feed) : Feed := { feed with publishers := feed.publishers - 1 }

/-- The subscriber goes away, and the waiting events with it. -/
def unsubscribe (feed : Feed) : Feed := { feed with pending := [], subscribed := false }

/-- Takes out the next event if there is one. -/
def tryReceive (feed : Feed) : Except Lack Event × Feed :=
  match feed.pending with
  | event :: rest => (.ok event, { feed with pending := rest })
  | [] => (.error (if feed.publishers = 0 then .disconnected else .empty), feed)

/-- Takes a look for the next event. -/
def look (feed : Feed) : Look × Feed :=
  match feed.pending with
  | event :: rest => (.ready (some event), { feed with pending := rest })
  | [] => (if feed.publishers = 0 then .ready none else .pending, feed)

instance : Channel Feed where
  fresh := {}
  waiting := pending
  publishers := publishers
  isClosed feed := !feed.subscribed
  send? feed event := if feed.subscribed then some (feed.publish event) else none
  tryReceive := tryReceive
  receive := look
  pollReceive := look
  join := join
  leave := leave
  unsubscribe := unsubscribe

variable {feed rest : Feed} {event : Event} {lack : Lack}

theorem eq_of_send? (taken : Channel.send? feed event = some rest) :
    rest = { feed with pending := feed.pending ++ [event] } := by
  simp only [Channel.send?, publish] at taken
  split at taken
  · exact (Option.some.inj taken).symm
  · cases taken

theorem pending_of_tryReceive_ok (received : feed.tryReceive = (.ok event, rest)) :
    feed.pending = event :: rest.pending := by
  simp only [tryReceive] at received
  split at received
  · next pending_eq =>
      cases received
      exact pending_eq
  · cases received

theorem pending_of_tryReceive_error (received : feed.tryReceive = (.error lack, rest)) :
    feed.pending = [] ∧ rest.pending = [] := by
  simp only [tryReceive] at received
  split at received
  · cases received
  · next nothing =>
      cases received
      exact ⟨nothing, nothing⟩

theorem sameEnds_tryReceive (feed : Feed) : Channel.SameEnds feed feed.tryReceive.2 := by
  simp only [tryReceive]
  split <;> exact ⟨rfl, rfl⟩

theorem finds_look (feed : Feed) : Channel.Finds feed feed.look.2 feed.look.1 := by
  simp only [look]
  split
  · next waiting => exact waiting
  · next nothing =>
      split
      · next nobody => exact ⟨nothing, nothing, nobody⟩
      · next somebody => exact ⟨nothing, nothing, somebody⟩

theorem sameEnds_look (feed : Feed) : Channel.SameEnds feed feed.look.2 := by
  simp only [look]
  split <;> exact ⟨rfl, rfl⟩

instance : LawfulChannel Feed where
  waiting_fresh := rfl
  publishers_fresh := rfl
  isClosed_fresh := rfl
  isSome_send? event there := by
    simp only [Channel.isClosed, Bool.not_eq_false'] at there
    simp [Channel.send?, there]
  waiting_send? taken := by
    rw [eq_of_send? taken]
    rfl
  sameEnds_send? taken := by
    rw [eq_of_send? taken]
    exact ⟨rfl, rfl⟩
  waiting_of_tryReceive_ok := pending_of_tryReceive_ok
  waiting_of_tryReceive_error := pending_of_tryReceive_error
  sameEnds_tryReceive := sameEnds_tryReceive
  finds_receive := finds_look
  sameEnds_receive := sameEnds_look
  finds_pollReceive := finds_look
  sameEnds_pollReceive := sameEnds_look
  publishers_join _ := rfl
  waiting_leave _ := rfl
  publishers_leave _ := rfl
  isClosed_leave _ := rfl
  publishers_unsubscribe _ := rfl

/-- Reads from the feed. -/
def read (feed : Feed) (reading : Reading) : Answer × Feed := Channel.read feed reading

end Feed

end Presence
