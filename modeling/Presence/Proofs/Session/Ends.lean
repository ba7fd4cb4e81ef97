import Presence.Session.Ends

/-!
# Publishing and reading

A channel keeps the order of its events, and whoever takes out events takes those that have waited
longest. From this follows what every way of reading hands over, `Channel.delivered_read`, and what
its answers say about the events that wait.
-/

namespace Presence

/-- The events that an answer hands over. -/
def Feed.Answer.delivered : Feed.Answer → List Event
  | .event? next => next.toList
  | .events drained => drained
  | .pending | .ended | .unsubscribed => []

/-- Whether one may have to wait when one reads in this way. -/
def Feed.Reading.waits : Feed.Reading → Bool
  | .receive | .next => true
  | .poll | .drain => false

namespace Channel

/-- The channel after an event was published in it, whether or not the event was lost. -/
def publish {κ : Type} [Channel κ] (channel : κ) (event : Event) : κ :=
  (publish? channel event).getD channel

variable {κ : Type} [Channel κ] {channel : κ}

/-! ### What a look finds -/

theorem Finds.delivered {rest : κ} {look : Look} (found : Finds channel rest look) :
    (Feed.Answer.ofLook look).delivered ++ waiting rest = waiting channel := by
  rcases look with (_ | event) | _
  · rw [found.1, found.2.1]
    rfl
  · exact found.symm
  · rw [found.1, found.2.1]
    rfl

theorem Finds.ended_iff {rest : κ} {look : Look} (found : Finds channel rest look) :
    Feed.Answer.ofLook look = .ended ↔ publishers channel = 0 ∧ waiting channel = [] := by
  rcases look with (_ | event) | _
  · exact iff_of_true rfl ⟨found.2.2, found.1⟩
  · refine iff_of_false (by rintro ⟨⟩) fun nothing => ?_
    cases nothing.2.symm.trans found
  · exact iff_of_false (by rintro ⟨⟩) fun nobody => found.2.2 nobody.1

theorem Finds.pending_iff {rest : κ} {look : Look} (found : Finds channel rest look) :
    Feed.Answer.ofLook look = .pending ↔ publishers channel ≠ 0 ∧ waiting channel = [] := by
  rcases look with (_ | event) | _
  · exact iff_of_false (by rintro ⟨⟩) fun somebody => somebody.1 found.2.2
  · refine iff_of_false (by rintro ⟨⟩) fun nothing => ?_
    cases nothing.2.symm.trans found
  · exact iff_of_true rfl ⟨found.2.2, found.1⟩

variable [LawfulChannel κ]

/-! ### Publishing -/

theorem sameEnds_publish (channel : κ) (event : Event) :
    SameEnds channel (publish channel event) := by
  simp only [publish]
  cases taken : publish? channel event with
  | none => exact .refl channel
  | some published => exact sameEnds_publish? taken

theorem waiting_publish (there : isClosed channel = false) (event : Event) :
    waiting (publish channel event) = waiting channel ++ [event] := by
  obtain ⟨sent, taken⟩ := Option.isSome_iff_exists.1 (LawfulChannel.isSome_send? event there)
  have published : publish channel event = sent := by simp [publish, publish?, there, taken]
  rw [published]
  exact LawfulChannel.waiting_send? taken

theorem sameEnds_foldl_publish (channel : κ) (events : List Event) :
    SameEnds channel (events.foldl publish channel) := by
  induction events generalizing channel with
  | nil => exact .refl channel
  | cons event rest ih => exact (sameEnds_publish channel event).trans (ih _)

/-- While the subscriber is there, all events are published. -/
theorem waiting_foldl_publish (there : isClosed channel = false) (events : List Event) :
    waiting (events.foldl publish channel) = waiting channel ++ events := by
  induction events generalizing channel with
  | nil => exact (List.append_nil _).symm
  | cons event rest ih =>
      have still_there := (sameEnds_publish channel event).isClosed_eq.trans there
      rw [List.foldl_cons, ih still_there, waiting_publish there, List.append_assoc]
      rfl

/-! ### Reading -/

theorem delivered_poll (channel : κ) :
    (poll channel).1.toList ++ waiting (poll channel).2 = waiting channel := by
  rcases polled : poll channel with ⟨_ | event, rest⟩
  · rw [(waiting_of_poll_none polled).1, (waiting_of_poll_none polled).2]
    rfl
  · rw [waiting_of_poll_some polled]
    rfl

/-- Draining takes out everything. -/
theorem drain_eq (channel : κ) :
    (drain channel).1 = waiting channel ∧ waiting (drain channel).2 = [] := by
  induction channel using drain.induct with
  | case1 channel event rest polled _ _ _ _ ih =>
      rw [drain_of_poll_some polled, waiting_of_poll_some polled, ih.1]
      exact ⟨rfl, ih.2⟩
  | case2 channel rest polled =>
      rw [drain_of_poll_none polled, (waiting_of_poll_none polled).1]
      exact ⟨rfl, (waiting_of_poll_none polled).2⟩

theorem read_poll (there : isClosed channel = false) :
    read channel .poll = (.event? (poll channel).1, (poll channel).2) := by
  simp [read, there]

theorem read_drain (there : isClosed channel = false) :
    read channel .drain = (.events (drain channel).1, (drain channel).2) := by
  simp [read, there]

/-- Whoever may have to wait takes a look. -/
theorem read_of_waits (there : isClosed channel = false) {reading : Feed.Reading}
    (waits : reading.waits) :
    ∃ look rest, read channel reading = (.ofLook look, rest) ∧ Finds channel rest look := by
  cases reading with
  | poll | drain => cases waits
  | receive =>
      exact ⟨_, _, by simp only [read, there, Bool.false_eq_true, if_false],
        LawfulChannel.finds_receive channel⟩
  | next =>
      exact ⟨_, _, by simp only [read, there, Bool.false_eq_true, if_false],
        LawfulChannel.finds_pollReceive channel⟩

/-- Whatever is read stood in front of what is waiting. -/
theorem delivered_read (there : isClosed channel = false) (reading : Feed.Reading) :
    (read channel reading).1.delivered ++ waiting (read channel reading).2 = waiting channel := by
  by_cases waits : reading.waits
  · rcases read_of_waits there waits with ⟨look, rest, read_eq, found⟩
    rw [read_eq]
    exact found.delivered
  · cases reading with
    | poll =>
        rw [read_poll there]
        exact delivered_poll channel
    | drain =>
        rcases drain_eq channel with ⟨drained, nothing_left⟩
        rw [read_drain there, nothing_left, List.append_nil]
        exact drained
    | receive | next => exact absurd rfl waits

theorem waiting_read_drain (there : isClosed channel = false) :
    waiting (read channel .drain).2 = [] := by
  rw [read_drain there]
  exact (drain_eq channel).2

theorem poll_eq_none_iff (there : isClosed channel = false) :
    (read channel .poll).1 = .event? none ↔ waiting channel = [] := by
  rw [read_poll there, Feed.Answer.event?.injEq]
  rcases polled : poll channel with ⟨_ | event, rest⟩
  · exact iff_of_true rfl (waiting_of_poll_none polled).1
  · refine iff_of_false (by rintro ⟨⟩) fun nothing => ?_
    cases nothing.symm.trans (waiting_of_poll_some polled)

theorem read_eq_ended_iff (there : isClosed channel = false) {reading : Feed.Reading}
    (waits : reading.waits) :
    (read channel reading).1 = .ended ↔ publishers channel = 0 ∧ waiting channel = [] := by
  rcases read_of_waits there waits with ⟨look, rest, read_eq, found⟩
  rw [read_eq]
  exact found.ended_iff

theorem read_eq_pending_iff (there : isClosed channel = false) {reading : Feed.Reading}
    (waits : reading.waits) :
    (read channel reading).1 = .pending ↔ publishers channel ≠ 0 ∧ waiting channel = [] := by
  rcases read_of_waits there waits with ⟨look, rest, read_eq, found⟩
  rw [read_eq]
  exact found.pending_iff

end Channel

end Presence
