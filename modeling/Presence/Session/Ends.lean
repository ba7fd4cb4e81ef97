import Presence.Log
import Presence.Session.Channel

/-!
# The two ends of a channel

Publishing never waits and never fails; an event that nobody can read any more is lost. Reading has
four forms, which differ in what they answer when no event is waiting.
-/

namespace Presence

namespace Feed

/-- The remark that an event was lost. -/
def lostRecord (event : Event) : LogRecord where
  level := .trace
  message := "event dropped, no subscriber"
  fields := [("event", event.label)]

/-- A way to read from the feed. -/
inductive Reading where
  /-- The next event, if one is waiting. -/
  | poll
  | drain
  /-- The next event, for which one may have to wait. -/
  | receive
  /-- The next event of a sequence, for which one may have to wait. -/
  | next
deriving DecidableEq

/-- What reading from the feed answers. -/
inductive Answer where
  | event? (event : Option Event)
  | events (events : List Event)
  /-- No event is waiting, but one may still be published. -/
  | pending
  /-- No event is waiting, and none will be published any more. -/
  | ended
  /-- There is no subscriber who could read. -/
  | unsubscribed
deriving DecidableEq

/-- The answer to somebody who waits for an event and has taken a look. -/
def Answer.ofLook : Look → Answer
  | .ready (some event) => .event? (some event)
  | .ready none => .ended
  | .pending => .pending

end Feed

namespace Channel

variable {κ : Type} [Channel κ]

/-- The channel in which an event was published; none if the event was lost. -/
def publish? (channel : κ) (event : Event) : Option κ :=
  if isClosed channel then none else send? channel event

/-- Takes out the next event, if one is waiting. -/
def poll (channel : κ) : Option Event × κ :=
  let (received, rest) := tryReceive channel
  (received.toOption, rest)

/-- What polling finds waited in front of everything else. -/
theorem waiting_of_poll_some [LawfulChannel κ] {channel rest : κ} {event : Event}
    (polled : poll channel = (some event, rest)) : waiting channel = event :: waiting rest := by
  simp only [poll] at polled
  rcases received : tryReceive channel with ⟨_ | found, left⟩
  · simp [received, Except.toOption] at polled
  · obtain ⟨rfl, rfl⟩ : found = event ∧ left = rest := by
      simpa [received, Except.toOption] using polled
    exact LawfulChannel.waiting_of_tryReceive_ok received

theorem waiting_of_poll_none [LawfulChannel κ] {channel rest : κ}
    (polled : poll channel = (none, rest)) : waiting channel = [] ∧ waiting rest = [] := by
  simp only [poll] at polled
  rcases received : tryReceive channel with ⟨lack | found, left⟩
  · obtain rfl : left = rest := by simpa [received, Except.toOption] using polled
    exact LawfulChannel.waiting_of_tryReceive_error received
  · simp [received, Except.toOption] at polled

/-- Takes out one event after another until none is waiting. -/
def drain [LawfulChannel κ] (channel : κ) : List Event × κ :=
  match polled : poll channel with
  | (some event, rest) =>
      have fewer_wait : (waiting rest).length < (waiting channel).length := by
        rw [waiting_of_poll_some polled]
        exact Nat.lt_succ_self _
      let (events, last) := drain rest
      (event :: events, last)
  | (none, rest) => ([], rest)
termination_by (waiting channel).length

theorem drain_of_poll_some [LawfulChannel κ] {channel rest : κ} {event : Event}
    (polled : poll channel = (some event, rest)) :
    drain channel = (event :: (drain rest).1, (drain rest).2) := by
  rw [drain]
  split
  · next found =>
      cases polled.symm.trans found
      rfl
  · next found => cases polled.symm.trans found

theorem drain_of_poll_none [LawfulChannel κ] {channel rest : κ}
    (polled : poll channel = (none, rest)) : drain channel = ([], rest) := by
  rw [drain]
  split
  · next found => cases polled.symm.trans found
  · next found =>
      cases polled.symm.trans found
      rfl

/-- Reads from a channel; only a subscriber who is there can. -/
def read [LawfulChannel κ] (channel : κ) (reading : Feed.Reading) : Feed.Answer × κ :=
  if isClosed channel then (.unsubscribed, channel)
  else
    match reading with
    | .poll =>
        let (event, rest) := poll channel
        (.event? event, rest)
    | .drain =>
        let (events, rest) := drain channel
        (.events events, rest)
    | .receive =>
        let (look, rest) := receive channel
        (.ofLook look, rest)
    | .next =>
        let (look, rest) := pollReceive channel
        (.ofLook look, rest)

/-! ### Who is at the ends -/

variable [LawfulChannel κ]

theorem sameEnds_publish? {channel published : κ} {event : Event}
    (taken : publish? channel event = some published) : SameEnds channel published := by
  simp only [publish?] at taken
  split at taken
  · cases taken
  · exact LawfulChannel.sameEnds_send? taken

theorem sameEnds_of_poll {channel rest : κ} {found : Option Event}
    (polled : poll channel = (found, rest)) : SameEnds channel rest := by
  have rest_eq : (tryReceive channel).2 = rest := congrArg Prod.snd polled
  rw [← rest_eq]
  exact LawfulChannel.sameEnds_tryReceive channel

theorem sameEnds_drain (channel : κ) : SameEnds channel (drain channel).2 := by
  induction channel using drain.induct with
  | case1 channel event rest polled _ _ _ _ ih =>
      rw [drain_of_poll_some polled]
      exact (sameEnds_of_poll polled).trans ih
  | case2 channel rest polled =>
      rw [drain_of_poll_none polled]
      exact sameEnds_of_poll polled

/-- Reading leaves the publishers and the subscriber where they are. -/
theorem sameEnds_read (channel : κ) (reading : Feed.Reading) :
    SameEnds channel (read channel reading).2 := by
  simp only [read]
  split
  · exact .refl channel
  · cases reading with
    | poll => exact sameEnds_of_poll rfl
    | drain => exact sameEnds_drain channel
    | receive => exact LawfulChannel.sameEnds_receive channel
    | next => exact LawfulChannel.sameEnds_pollReceive channel

end Channel

end Presence
