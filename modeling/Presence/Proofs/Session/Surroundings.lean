import Presence.Proofs.Session.Isolation
import Presence.Proofs.Session.WellFormed

/-!
# Sessions in different surroundings

Two things around a session change without its doing: the link may refuse requests, and the
subscriber may go away. Neither has a way back into what the session knows. Two sessions that begin
alike and take the same steps stay alike, however differently they fare with their surroundings,
`Session.alike_of_surroundings`.
-/

namespace Presence

/-- What a session has no say in. -/
structure Surroundings where
  link : Link
  /-- Whether the subscriber is still there, unless the subscriber has gone away already. -/
  subscribed : Bool

namespace Session

/-- The session in the given surroundings. A subscriber who has gone away does not come back. -/
def amid (session : Session) (around : Surroundings) : Session :=
  { session with
    link := around.link
    feed := if around.subscribed then session.feed else session.feed.unsubscribe }

/-- A message that arrives, or an action of the user. -/
inductive Step where
  | receive (message : Message)
  | act (action : Action)

/-- The session after a step, whatever is answered. -/
def advance (session : Session) : Step → Session
  | .receive message => (session.handle message).2
  | .act action => (session.act action).2

/-- The session after several steps, each of them in its own surroundings. -/
def proceed (session : Session) (course : List (Step × Surroundings)) : Session :=
  course.foldl (fun reached turn => (reached.amid turn.2).advance turn.1) session

/-- Two sessions are alike if they know the same and go about their work in the same way. -/
structure Alike (first second : Session) : Prop where
  settings_eq : first.settings = second.settings
  self_eq : first.self = second.self
  store_eq : first.store = second.store

/-! ### What an action does -/

/-- Actions touch nothing but the store, the sent requests and the log. -/
theorem act_unchanged {κ β : Type} [Channel κ] (view : Session κ → β)
    (blind : ∀ (session : Session κ) store sent log,
      view { session with store, sent, log } = view session)
    (session : Session κ) (action : Action) : view (session.act action).2 = view session := by
  simp only [act]
  split
  · exact blind session _ _ _
  · simp only [send]
    split
    · exact blind session _ _ _
    · exact blind session _ _ _

/-- The request that an action comes down to, if it comes down to one. -/
def request? (session : Session) (action : Action) : Option Request :=
  (action.request session.self (session.store.persona.editAll action.personaEdits)).toOption

theorem act_sent (session : Session) (action : Action) :
    (session.act action).2.sent = session.sent ++
      if session.link.refusal?.isNone then (session.request? action).toList else [] := by
  have persona_eq : (session.store.apply (.editPersona action.personaEdits)).persona =
      session.store.persona.editAll action.personaEdits := rfl
  simp only [act, request?, persona_eq]
  cases action.request session.self (session.store.persona.editAll action.personaEdits) with
  | error refusal => simp [record, Except.toOption]
  | ok request =>
      have link_eq (session : Session) (entry : LogRecord) :
          (session.record entry).link = session.link := rfl
      simp only [send, link_eq]
      cases session.link.refusal? with
      | none => rfl
      | some refusal => exact (List.append_nil _).symm

/-! ### What a step does -/

/-- The events that tell of a step. -/
def Step.published : Step → List Event
  | .receive message => message.published
  | .act _ => []

/-- The requests that follow from a step of a session. -/
def Step.requested (session : Session) : Step → List Request
  | .receive message => message.requested session.settings session.self
  | .act action => (session.request? action).toList

theorem advance_feed (session : Session) (step : Step) :
    (session.advance step).feed = step.published.foldl Feed.publish session.feed := by
  cases step with
  | receive message =>
      simp only [advance, Step.published, handle_feed, Message.events_script]
  | act action => exact act_unchanged feed (fun _ _ _ _ => rfl) session action

theorem advance_sent (session : Session) (step : Step) :
    (session.advance step).sent = session.sent ++
      if session.link.refusal?.isNone then step.requested session else [] := by
  cases step with
  | receive message =>
      simp only [advance, Step.requested, handle_sent, Message.requests_script]
  | act action => exact session.act_sent action

/-- A step publishes these events if somebody listens, and sends these requests if the link takes
them. -/
structure Yields (session : Session) (step : Step) (events : List Event)
    (requests : List Request) : Prop where
  publishes : session.feed.subscribed →
    (session.advance step).feed.pending = session.feed.pending ++ events
  sends : session.link.refusal? = none → (session.advance step).sent = session.sent ++ requests

theorem yields_advance (session : Session) (step : Step) :
    session.Yields step step.published (step.requested session) where
  publishes := by
    intro subscribed
    rw [advance_feed, Feed.foldl_publish subscribed]
  sends := by
    intro accepting
    rw [advance_sent, accepting]
    rfl

/-! ### Sessions that are alike -/

variable {first second : Session}

theorem Alike.amid (alike : Alike first second) (around other : Surroundings) :
    Alike (first.amid around) (second.amid other) where
  settings_eq := alike.settings_eq
  self_eq := alike.self_eq
  store_eq := alike.store_eq

/-- Steps lead from sessions that are alike to sessions that are alike. -/
theorem Alike.advance (alike : Alike first second) (step : Step) :
    Alike (first.advance step) (second.advance step) := by
  cases step with
  | receive message =>
      refine { settings_eq := ?_, self_eq := ?_, store_eq := ?_ }
      · simp only [Session.advance, handle_settings, alike.settings_eq]
      · simp only [Session.advance, handle_self, alike.self_eq]
      · simp only [Session.advance, handle_store, alike.self_eq, alike.store_eq]
  | act action =>
      have settings_same (session : Session) :=
        act_unchanged settings (fun _ _ _ _ => rfl) session action
      have self_same (session : Session) :=
        act_unchanged self (fun _ _ _ _ => rfl) session action
      refine { settings_eq := ?_, self_eq := ?_, store_eq := ?_ }
      · simp only [Session.advance, settings_same, alike.settings_eq]
      · simp only [Session.advance, self_same, alike.self_eq]
      · simp only [Session.advance, act_store, alike.store_eq]

theorem Alike.requested_eq (alike : Alike first second) (step : Step) :
    step.requested first = step.requested second := by
  cases step with
  | receive message => simp only [Step.requested, alike.settings_eq, alike.self_eq]
  | act action => simp only [Step.requested, request?, alike.self_eq, alike.store_eq]

/-- The two courses of a pair of sessions that take the same steps in different surroundings. -/
def courses (turns : List (Step × Surroundings × Surroundings)) :
    List (Step × Surroundings) × List (Step × Surroundings) :=
  (turns.map fun turn => (turn.1, turn.2.1), turns.map fun turn => (turn.1, turn.2.2))

/-- A relation between two sessions that every turn preserves holds at the end of their courses. -/
theorem proceed_induction (Related : Session → Session → Prop)
    {turns : List (Step × Surroundings × Surroundings)}
    (turn_related : ∀ turn ∈ turns, ∀ first second, Related first second →
      Related ((first.amid turn.2.1).advance turn.1) ((second.amid turn.2.2).advance turn.1))
    (related : Related first second) :
    Related (first.proceed (courses turns).1) (second.proceed (courses turns).2) := by
  induction turns generalizing first second with
  | nil => exact related
  | cons turn rest ih =>
      apply ih
      · intro later later_mem
        exact turn_related later (List.mem_cons_of_mem turn later_mem)
      · exact turn_related turn List.mem_cons_self first second related

/-- Two sessions that begin alike and take the same steps are alike after every step, and answer
messages in the same way, whatever the links refuse and whoever still listens. At every step the
same events are published wherever somebody listens, and the same requests are sent wherever they
are taken. So the events do not depend on the link, and the requests do not depend on the
subscriber. -/
theorem alike_of_surroundings (alike : Alike first second)
    (turns : List (Step × Surroundings × Surroundings)) :
    let reached := first.proceed (courses turns).1
    let other := second.proceed (courses turns).2
    Alike reached other ∧
      (∀ (around otherAround : Surroundings) (message : Message),
        ((reached.amid around).handle message).1 = ((other.amid otherAround).handle message).1) ∧
      (∀ step : Step, ∃ events requests, ∀ around otherAround : Surroundings,
        (reached.amid around).Yields step events requests ∧
          (other.amid otherAround).Yields step events requests) ∧
      ((∀ turn ∈ turns, turn.2.1.subscribed = turn.2.2.subscribed) → first.feed = second.feed →
        reached.feed = other.feed) ∧
      ((∀ turn ∈ turns, turn.2.1.link = turn.2.2.link) → first.sent = second.sent →
        reached.sent = other.sent) := by
  intro reached other
  have still_alike : Alike reached other := by
    apply proceed_induction Alike _ alike
    intro turn _ first second alike
    exact (alike.amid turn.2.1 turn.2.2).advance turn.1
  refine ⟨still_alike, ?_, ?_, ?_, ?_⟩
  · intro around otherAround message
    rw [handle_answer, handle_answer]
  · intro step
    refine ⟨step.published, step.requested reached, ?_⟩
    intro around otherAround
    have requested_eq : step.requested reached = step.requested (other.amid otherAround) :=
      (still_alike.amid around otherAround).requested_eq step
    refine ⟨(reached.amid around).yields_advance step, ?_⟩
    rw [requested_eq]
    exact (other.amid otherAround).yields_advance step
  · intro same_subscribed feed_eq
    refine proceed_induction (fun first second => first.feed = second.feed) ?_ feed_eq
    intro turn turn_mem first second feed_eq
    rw [advance_feed, advance_feed]
    simp only [amid, same_subscribed turn turn_mem, feed_eq]
  · intro same_link sent_eq
    -- Requests depend on what a session knows, so the relation has to say that this is the same.
    refine (proceed_induction (fun first second =>
      Alike first second ∧ first.sent = second.sent) ?_ ⟨alike, sent_eq⟩).2
    rintro turn turn_mem first second ⟨alike, sent_eq⟩
    have amid_alike := alike.amid turn.2.1 turn.2.2
    have link_eq : (first.amid turn.2.1).link = (second.amid turn.2.2).link :=
      same_link turn turn_mem
    have sent_before : (first.amid turn.2.1).sent = (second.amid turn.2.2).sent := sent_eq
    refine ⟨amid_alike.advance turn.1, ?_⟩
    rw [advance_sent, advance_sent, amid_alike.requested_eq, link_eq, sent_before]

/-- A name is set while one link is closed, and a friend is listed while one subscriber is gone: both
sessions know the name and the friend, and both would send the same. -/
theorem alike_of_surroundings_of_lost_link :
    let friend : AccountId := ⟨0x110000100000002⟩
    let fine : Surroundings := ⟨{}, true⟩
    let turns : List (Step × Surroundings × Surroundings) :=
      [(.act (.setName "a"), ⟨{ closed := true }, true⟩, fine),
        (.receive (.friendList ⟨false, [⟨friend, 3⟩]⟩), fine, ⟨{ rejecting := some "b" }, false⟩)]
    let session : Session := { self := ⟨0x110000100000001⟩ }
    let reached := session.proceed (courses turns).1
    let other := session.proceed (courses turns).2
    session.Alike session ∧ reached.store = other.store ∧
      reached.store.persona.name = "a" ∧ reached.store.friends.contains friend ∧
      reached.sent = [.personas session.settings.friendFields [friend]] ∧
      other.sent = [.changeStatus (.known .offline) (some "a")] ∧
      reached.feed.pending = [.friendList] ∧ other.feed.pending = [] := by
  intro friend fine turns session reached other
  have alike : session.Alike session := ⟨rfl, rfl, rfl⟩
  refine ⟨alike, (alike_of_surroundings alike turns).1.store_eq, ?_⟩
  decide

end Session

end Presence
