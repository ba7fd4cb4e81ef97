import Presence.Proofs.Rooms.Seats
import Presence.Proofs.Session.Publication

/-!
# Malformed messages

Whether a message is malformed is decided by its payload, `Message.failure?`. A malformed message
publishes nothing and sends nothing. If it is a report on a member it leaves no trace outside the
log, and if it is a room entry it touches no other room. So a run of messages goes on behind it as
if nothing had happened, `Session.isolated_failures`.
-/

namespace Presence

namespace Message

/-- What a message lacks, if it is malformed. -/
def failure? : Message → Option Shortfall
  | .roomEntry entry =>
      match entry.whole with
      | .ok _ => none
      | .error shortfall => some shortfall
  | .memberReport report =>
      if report.news = .known .stateChange then
        match StateChange.ofBytes report.payload with
        | .ok _ => none
        | .error shortfall => some shortfall
      else none
  | _ => none

theorem failure_body (settings : SessionSettings) (self : AccountId) (message : Message) :
    (message.body settings self).failure = message.failure? := by
  cases message with
  | roomEntry entry =>
      simp only [body, failure?]
      cases read : entry.whole with
      | error shortfall => exact RoomEntry.failure_of_broken read
      | ok found => rw [RoomEntry.script_of_whole read]
  | memberReport report =>
      simp only [body, failure?, MemberReport.script]
      split
      · cases StateChange.ofBytes report.payload <;> rfl
      · rfl
  | _ => rfl

variable {message : Message} {shortfall : Shortfall}

/-- Only room entries and state changes can be malformed. -/
theorem failure?_cases (failed : message.failure? = some shortfall) :
    (∃ entry : RoomEntry, message = .roomEntry entry ∧ entry.whole = .error shortfall) ∨
      ∃ report : MemberReport, message = .memberReport report ∧
        report.news = .known .stateChange ∧
        StateChange.ofBytes report.payload = .error shortfall := by
  cases message with
  | roomEntry entry =>
      left
      refine ⟨entry, rfl, ?_⟩
      simp only [failure?] at failed
      split at failed
      · cases failed
      · next broken =>
          rw [broken, Option.some.inj failed]
  | memberReport report =>
      right
      simp only [failure?] at failed
      split at failed
      · next is_change =>
          refine ⟨report, rfl, is_change, ?_⟩
          split at failed
          · cases failed
          · next broken => rw [broken, Option.some.inj failed]
      · cases failed
  | _ => cases failed

theorem published_of_failure (failed : message.failure? = some shortfall) :
    message.published = [] := by
  rcases failure?_cases failed with ⟨entry, rfl, broken⟩ | ⟨report, rfl, is_change, broken⟩
  · simp only [published, broken]
  · simp only [published, MemberReport.change?_of_broken broken]
    rfl

theorem requested_of_failure (settings : SessionSettings) (self : AccountId)
    (failed : message.failure? = some shortfall) : message.requested settings self = [] := by
  rcases failure?_cases failed with ⟨entry, rfl, broken⟩ | ⟨report, rfl, is_change, broken⟩ <;> rfl

theorem changes_of_failed_report {report : MemberReport} (self : AccountId)
    (failed : (Message.memberReport report).failure? = some shortfall) :
    (Message.memberReport report).changes self = [] := by
  rcases failure?_cases failed with ⟨entry, is_entry, _⟩ | ⟨told, is_told, is_change, broken⟩
  · cases is_entry
  · cases is_told
    simp only [changes, MemberReport.change?_of_broken broken]
    rfl

end Message

namespace Session

/-- The answer to a message says whether it is malformed, and nothing else. -/
theorem handle_answer (session : Session) (message : Message) :
    (session.handle message).1 =
      match message.failure? with
      | some cause => .error { kind := message.kind, cause }
      | none => .ok () := by
  have failure_eq := message.failure_body session.settings session.self
  cases failed : message.failure? with
  | none => simp only [handle_result, failure_eq, failed]
  | some cause => simp only [handle_result, failure_eq, failed]

theorem handle_error_iff (session : Session) (message : Message) (malformed : Malformed) :
    (session.handle message).1 = .error malformed ↔
      malformed.kind = message.kind ∧ message.failure? = some malformed.cause := by
  rcases malformed with ⟨kind, cause⟩
  rw [handle_answer]
  cases message.failure? with
  | none => simp
  | some found => simp [eq_comm]

theorem isOk_handle (session : Session) (message : Message) :
    (session.handle message).1.isOk = message.failure?.isNone := by
  rw [handle_answer]
  cases message.failure? <;> rfl

/-- A malformed message is not heard of by the subscriber or by the service. -/
theorem handle_silent (session : Session) {message : Message} {shortfall : Shortfall}
    (failed : message.failure? = some shortfall) :
    (session.handle message).2.feed = session.feed ∧
      (session.handle message).2.sent = session.sent := by
  constructor
  · rw [handle_feed, Message.events_script, Message.published_of_failure failed]
    rfl
  · rw [handle_sent, Message.requests_script, Message.requested_of_failure _ _ failed, ite_self,
      List.append_nil]

/-! ### The log makes no difference -/

/-- Two sessions differ in nothing but the log if they have the same in every other place. -/
theorem unlogged_eq {first second : Session} (settings_eq : first.settings = second.settings)
    (self_eq : first.self = second.self) (link_eq : first.link = second.link)
    (store_eq : first.store = second.store) (feed_eq : first.feed = second.feed)
    (sent_eq : first.sent = second.sent) : first.unlogged = second.unlogged := by
  simp only [unlogged, settings_eq, self_eq, link_eq, store_eq, feed_eq, sent_eq]

/-- What a message does to a session does not depend on the log. -/
theorem unlogged_handle {first second : Session} (same : first.unlogged = second.unlogged)
    (message : Message) :
    (first.handle message).2.unlogged = (second.handle message).2.unlogged := by
  simp only [unlogged, mk.injEq, and_true] at same
  rcases same with ⟨settings_eq, self_eq, link_eq, store_eq, feed_eq, sent_eq⟩
  apply unlogged_eq
  · rw [handle_settings, handle_settings, settings_eq]
  · rw [handle_self, handle_self, self_eq]
  · rw [handle_link, handle_link, link_eq]
  · rw [handle_store, handle_store, store_eq, self_eq]
  · rw [handle_feed, handle_feed, settings_eq, self_eq, feed_eq]
  · rw [handle_sent, handle_sent, settings_eq, self_eq, link_eq, sent_eq]

/-- A report that cannot be read leaves no trace but in the log. -/
theorem handle_failed_report (session : Session) {report : MemberReport} {shortfall : Shortfall}
    (failed : (Message.memberReport report).failure? = some shortfall) :
    (session.handle (.memberReport report)).2.unlogged = session.unlogged := by
  rcases session.handle_silent failed with ⟨feed_eq, sent_eq⟩
  refine unlogged_eq ?_ ?_ ?_ ?_ feed_eq sent_eq
  · exact handle_settings session _
  · exact handle_self session _
  · exact handle_link session _
  · rw [handle_store, Message.changes_of_failed_report session.self failed]
    rfl

/-- Taking in one message after another is handling them one after another. -/
theorem foldl_absorb_unlogged {first second : Session} (same : first.unlogged = second.unlogged)
    (messages : List Message) :
    (messages.foldl absorb first).unlogged =
      (messages.foldl (fun reached message => (reached.handle message).2) second).unlogged := by
  induction messages generalizing first second with
  | nil => exact same
  | cons message rest ih =>
      apply ih
      rw [unlogged_absorb]
      exact unlogged_handle same message

/-- Messages that leave no trace but in the log can be left out. -/
theorem foldl_handle_filter {heeded : Message → Bool}
    (traceless : ∀ (session : Session) (message : Message), heeded message = false →
      (session.handle message).2.unlogged = session.unlogged)
    {first second : Session} (same : first.unlogged = second.unlogged) (messages : List Message) :
    ((messages.filter heeded).foldl (fun reached message => (reached.handle message).2)
        first).unlogged =
      (messages.foldl (fun reached message => (reached.handle message).2) second).unlogged := by
  induction messages generalizing first second with
  | nil => exact same
  | cons message rest ih =>
      cases heed : heeded message with
      | true =>
          rw [List.filter_cons_of_pos heed]
          apply ih
          exact unlogged_handle same message
      | false =>
          rw [List.filter_cons_of_neg (by simp [heed])]
          apply ih
          rw [same, traceless second message heed]

/-- A malformed message is isolated. Only a room entry or a report on a state change can be
malformed, and whether it is does not depend on the session. It publishes and sends nothing; a room
entry replaces its own room and does nothing else, a report does nothing at all. So a run deals with
every message as if it were the only one, and comes to the same end without the reports that cannot
be read. -/
theorem isolated_failures (session : Session) :
    (∀ message malformed, (session.handle message).1 = .error malformed →
      let failed := (session.handle message).2
      malformed.kind = message.kind ∧
        (∀ other : Session, (other.handle message).1 = .error malformed) ∧
        failed.feed = session.feed ∧ failed.sent = session.sent ∧
        ((∃ entry : RoomEntry, message = .roomEntry entry ∧ ∃ room : Room, failed.store =
            { session.store with rooms := session.store.rooms.insert entry.room room }) ∨
          ∃ report : MemberReport, message = .memberReport report ∧
            report.news = .known .stateChange ∧ failed.store = session.store)) ∧
    ∀ messages : List Message,
      let heeded := fun message : Message =>
        message.kind ≠ .memberReport || (session.handle message).1.isOk
      (session.run messages).unlogged =
          (messages.foldl (fun reached message => (reached.handle message).2) session).unlogged ∧
        (session.run (messages.filter heeded)).unlogged = (session.run messages).unlogged := by
  constructor
  · intro message malformed refused failed
    rcases (session.handle_error_iff message malformed).mp refused with ⟨kind_eq, failure⟩
    rcases session.handle_silent failure with ⟨feed_eq, sent_eq⟩
    refine ⟨kind_eq, ?_, feed_eq, sent_eq, ?_⟩
    · intro other
      exact (other.handle_error_iff message malformed).mpr ⟨kind_eq, failure⟩
    · rcases Message.failure?_cases failure with
        ⟨entry, rfl, broken⟩ | ⟨report, rfl, is_change, broken⟩
      · left
        rcases session.store.applyAll_entry entry with ⟨roster, _, store_eq⟩
        exact ⟨entry, rfl, _, (session.handle_store _).trans store_eq⟩
      · right
        have store_eq := congrArg store (session.handle_failed_report failure)
        exact ⟨report, rfl, is_change, store_eq⟩
  · intro messages heeded
    -- Whether a message is heeded does not depend on the session that it is asked of.
    have traceless (reached : Session) (message : Message) (unheeded : heeded message = false) :
        (reached.handle message).2.unlogged = reached.unlogged := by
      simp only [heeded, isOk_handle, Bool.or_eq_false_iff, decide_eq_false_iff_not,
        Decidable.not_not, Option.isNone_eq_false_iff] at unheeded
      rcases unheeded with ⟨is_report, failed⟩
      rcases Option.isSome_iff_exists.mp failed with ⟨shortfall, failed⟩
      cases message with
      | memberReport report => exact reached.handle_failed_report failed
      | _ => cases is_report
    have run_eq (messages : List Message) : (session.run messages).unlogged =
        (messages.foldl (fun reached message => (reached.handle message).2) session).unlogged :=
      foldl_absorb_unlogged rfl messages
    refine ⟨run_eq messages, ?_⟩
    rw [run_eq, run_eq]
    exact foldl_handle_filter traceless rfl messages

/-- A report that cannot be read and a roster that breaks off come in front of a member who enters:
the report might as well not have come, and the member is seated. -/
theorem isolated_failures_of_broken_roster :
    let member : Member := ⟨⟨5⟩, ⟨8⟩, ⟨0⟩⟩
    let session : Session := { self := ⟨1⟩ }
    let broken : Message := .memberReport ⟨⟨7⟩, .known .stateChange, [1]⟩
    let entry : RoomEntry :=
      { (default : RoomEntry) with room := ⟨7⟩, memberCount := 1, payload := [0, 0, 1] }
    let arrival : Message := .memberReport (.entering ⟨7⟩ member ⟨9⟩)
    let messages : List Message := [broken, .roomEntry entry, arrival]
    (∃ malformed, (session.handle broken).1 = .error malformed ∧ malformed.kind = .memberReport) ∧
      (∃ malformed, (session.handle (.roomEntry entry)).1 = .error malformed ∧
        malformed.kind = .roomEntry) ∧
      (session.run messages).unlogged = (session.run [.roomEntry entry, arrival]).unlogged ∧
      (session.run messages).store.member? ⟨7⟩ ⟨5⟩ = some member := by
  intro member session broken entry arrival messages
  obtain ⟨failed, run_eq⟩ := isolated_failures session
  have broken_answer : (session.handle broken).1 =
      .error ⟨.memberReport, ⟨"acted on", 0, 8, 1⟩⟩ := by decide
  have entry_answer : (session.handle (.roomEntry entry)).1 =
      .error ⟨.roomEntry, ⟨"member tag", 2, 2, 1⟩⟩ := by decide
  refine ⟨⟨_, broken_answer, (failed broken _ broken_answer).1⟩,
    ⟨_, entry_answer, (failed (.roomEntry entry) _ entry_answer).1⟩, ?_, by decide⟩
  have kept_eq : messages.filter (fun message =>
      message.kind ≠ .memberReport || (session.handle message).1.isOk) =
        [.roomEntry entry, arrival] := by decide
  rw [← kept_eq]
  exact (run_eq messages).2.symm

end Session

end Presence
