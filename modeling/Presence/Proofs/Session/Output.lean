import Presence.Proofs.Session.Changes
import Presence.Proofs.Session.Ends

/-!
# What messages publish and send

As the store sees of a script nothing but its changes, so the channel sees nothing but its events
and the link nothing but its requests, `Session.handle_channel` and `Session.handle_sent`.
-/

namespace Presence

namespace Script

/-- The events among some effects, in order. -/
def eventsAmong (effects : List Effect) : List Event := { effects : Script }.events

/-- The requests among some effects, in order. -/
def requestsAmong (effects : List Effect) : List Request := { effects : Script }.requests

@[simp]
theorem eventsAmong_nil : eventsAmong [] = [] := rfl

@[simp]
theorem eventsAmong_change (change : Change) (rest : List Effect) :
    eventsAmong (.change change :: rest) = eventsAmong rest := rfl

@[simp]
theorem eventsAmong_request (request : Request) (rest : List Effect) :
    eventsAmong (.request request :: rest) = eventsAmong rest := rfl

@[simp]
theorem eventsAmong_publish (event : Event) (rest : List Effect) :
    eventsAmong (.publish event :: rest) = event :: eventsAmong rest := rfl

@[simp]
theorem eventsAmong_note (note : Note) (rest : List Effect) :
    eventsAmong (.note note :: rest) = eventsAmong rest := rfl

@[simp]
theorem eventsAmong_append (first second : List Effect) :
    eventsAmong (first ++ second) = eventsAmong first ++ eventsAmong second :=
  List.filterMap_append

@[simp]
theorem requestsAmong_nil : requestsAmong [] = [] := rfl

@[simp]
theorem requestsAmong_change (change : Change) (rest : List Effect) :
    requestsAmong (.change change :: rest) = requestsAmong rest := rfl

@[simp]
theorem requestsAmong_request (request : Request) (rest : List Effect) :
    requestsAmong (.request request :: rest) = request :: requestsAmong rest := rfl

@[simp]
theorem requestsAmong_publish (event : Event) (rest : List Effect) :
    requestsAmong (.publish event :: rest) = requestsAmong rest := rfl

@[simp]
theorem requestsAmong_note (note : Note) (rest : List Effect) :
    requestsAmong (.note note :: rest) = requestsAmong rest := rfl

@[simp]
theorem requestsAmong_append (first second : List Effect) :
    requestsAmong (first ++ second) = requestsAmong first ++ requestsAmong second :=
  List.filterMap_append

variable {α : Type}

@[simp]
theorem eventsAmong_map (items : List α) (change : α → Change) :
    eventsAmong (items.map fun item => .change (change item)) = [] := by
  induction items with
  | nil => rfl
  | cons item rest ih => rw [List.map_cons, eventsAmong_change, ih]

@[simp]
theorem requestsAmong_map (items : List α) (change : α → Change) :
    requestsAmong (items.map fun item => .change (change item)) = [] := by
  induction items with
  | nil => rfl
  | cons item rest ih => rw [List.map_cons, requestsAmong_change, ih]

end Script

namespace Feed

/-- What the two ends of a feed make of an event is what the feed makes of it. -/
theorem publish_eq_publish : (Channel.publish : Feed → Event → Feed) = publish := by
  funext feed event
  cases subscribed : feed.subscribed <;>
    simp [Channel.publish, Channel.publish?, Channel.isClosed, Channel.send?, publish, subscribed]

/-- While somebody is subscribed, all events are published. -/
theorem foldl_publish {feed : Feed} (subscribed : feed.subscribed) (events : List Event) :
    events.foldl publish feed = { feed with pending := feed.pending ++ events } := by
  induction events generalizing feed with
  | nil => simp
  | cons event rest ih =>
      have published : feed.publish event = { feed with pending := feed.pending ++ [event] } :=
        if_pos subscribed
      have still_subscribed : (feed.publish event).subscribed := by rw [published]; exact subscribed
      have later := ih still_subscribed
      rw [List.foldl_cons, later, published]
      simp

end Feed

open Script

namespace Session

variable {κ : Type} [Channel κ]

theorem perform_link (spans : List LogSpan) (session : Session κ) (effect : Effect) :
    (session.perform spans effect).link = session.link :=
  perform_unchanged (fun _ _ _ _ _ => rfl) spans session effect

theorem handle_link (session : Session κ) (message : Message) :
    (session.handle message).2.link = session.link :=
  handle_unchanged (fun _ _ _ _ _ => rfl) session message

theorem perform_channel (spans : List LogSpan) (session : Session κ) (effect : Effect) :
    (session.perform spans effect).feed =
      (eventsAmong [effect]).foldl Channel.publish session.feed := by
  cases effect with
  | change change => rfl
  | request request =>
      simp only [perform, send]
      cases session.link.refusal? <;> rfl
  | publish event =>
      simp only [perform, eventsAmong_publish, eventsAmong_nil, List.foldl_cons, List.foldl_nil]
      simp only [Channel.publish]
      split
      · next taken => rw [taken]; rfl
      · next lost => rw [lost]; rfl
  | note note =>
      simp only [perform]
      split <;> rfl

theorem perform_sent (spans : List LogSpan) (session : Session κ) (effect : Effect) :
    (session.perform spans effect).sent =
      session.sent ++ if session.link.refusal?.isNone then requestsAmong [effect] else [] := by
  cases effect with
  | change change => simp [perform]
  | request request =>
      simp only [perform, send]
      cases session.link.refusal? with
      | none => rfl
      | some refusal => exact (List.append_nil _).symm
  | publish event =>
      simp only [perform]
      split <;> simp [record]
  | note note =>
      simp only [perform]
      split <;> simp [record]

theorem foldl_perform_channel (spans : List LogSpan) (session : Session κ) (effects : List Effect) :
    (effects.foldl (perform spans) session).feed =
      (eventsAmong effects).foldl Channel.publish session.feed := by
  induction effects generalizing session with
  | nil => rfl
  | cons effect rest ih =>
      rw [List.foldl_cons, ih, perform_channel, ← List.foldl_append, ← eventsAmong_append]
      rfl

theorem foldl_perform_sent (spans : List LogSpan) (session : Session κ) (effects : List Effect) :
    (effects.foldl (perform spans) session).sent =
      session.sent ++ if session.link.refusal?.isNone then requestsAmong effects else [] := by
  induction effects generalizing session with
  | nil => simp
  | cons effect rest ih =>
      have requests_eq : requestsAmong (effect :: rest) =
          requestsAmong [effect] ++ requestsAmong rest := requestsAmong_append [effect] rest
      rw [List.foldl_cons, ih, perform_sent, perform_link, List.append_assoc, requests_eq]
      split <;> rfl

/-- The events of a message are published one after another. -/
theorem handle_channel (session : Session κ) (message : Message) :
    (session.handle message).2.feed =
      (message.script session.settings session.self).events.foldl Channel.publish session.feed :=
  foldl_perform_channel ..

theorem handle_feed (session : Session) (message : Message) :
    (session.handle message).2.feed =
      (message.script session.settings session.self).events.foldl Feed.publish session.feed := by
  rw [← Feed.publish_eq_publish]
  exact session.handle_channel message

/-- The requests of a message are sent one after another, unless the link refuses them. -/
theorem handle_sent (session : Session κ) (message : Message) :
    (session.handle message).2.sent =
      session.sent ++ if session.link.refusal?.isNone then
        (message.script session.settings session.self).requests else [] :=
  foldl_perform_sent ..

/-! ### What becomes of a session but for its log -/

/-- The session without its log. -/
def unlogged (session : Session κ) : Session κ := { session with log := [] }

@[simp]
theorem unlogged_record (session : Session κ) (entry : LogRecord) :
    (session.record entry).unlogged = session.unlogged := rfl

/-- To take in a message is to handle it; only the log says more. -/
theorem unlogged_absorb (session : Session κ) (message : Message) :
    (session.absorb message).unlogged = (session.handle message).2.unlogged := by
  simp only [absorb]
  split
  · next handled => rw [handled]
  · next handled => rw [handled, unlogged_record]

/-- Whatever does not look at the log finds the same after a message was taken in as after it was
handled. -/
theorem absorb_congr {β : Type} (view : Session κ → β)
    (blind : ∀ session, view session.unlogged = view session) (session : Session κ)
    (message : Message) : view (session.absorb message) = view (session.handle message).2 := by
  rw [← blind, unlogged_absorb, blind]

end Session

end Presence
