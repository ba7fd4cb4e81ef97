import Presence.Script.Message
import Presence.Session.Action
import Presence.Session.Feed
import Presence.Session.Link

/-!
# Sessions

A session takes in messages from the service and actions of its user. It keeps its store up to
date, publishes events on its feed and sends requests through its link. `Session.handle` performs
the script of a message, `Session.act` an action.

Nothing that goes wrong with a message harms later ones: a malformed message is reported to the
caller and the session goes on; a request that cannot be sent and an event that nobody wants to
hear leave a trace in the log.
-/

namespace Presence

/-- A session with the service, over a channel of events. -/
structure Session (κ : Type := Feed) [Channel κ] where
  /-- How the session goes about its work. -/
  settings : SessionSettings := {}
  /-- The account that the session is logged in as. -/
  self : AccountId
  /-- The condition of the link to the service. -/
  link : Link := {}
  /-- What the session knows. -/
  store : Store := {}
  /-- The events on their way to the subscriber. -/
  feed : κ := Channel.fresh
  /-- The requests that were sent, the oldest first. -/
  sent : List Request := []
  /-- The log, the oldest record first. -/
  log : List LogRecord := []
deriving DecidableEq, Inhabited

/-- A message was not understood. -/
structure Malformed where
  kind : MessageKind
  /-- What the message lacks. -/
  cause : Shortfall
deriving DecidableEq

namespace Malformed

/-- The wording of the error. -/
def message (malformed : Malformed) : String :=
  s!"malformed {malformed.kind.label} payload: {malformed.cause.message}"

/-- The name of the error in the log. -/
def code : String := "malformed_record"

end Malformed

namespace Session

variable {κ : Type} [Channel κ]

/-- Writes to the log. -/
def record (session : Session κ) (entry : LogRecord) : Session κ :=
  { session with log := session.log ++ [entry] }

/-- Hands a request to the link. -/
def send (session : Session κ) (request : Request) : Except LinkError Unit × Session κ :=
  match session.link.refusal? with
  | some refusal => (.error refusal, session)
  | none => (.ok (), { session with sent := session.sent ++ [request] })

/-- Does one thing, within some spans of the log. -/
def perform (spans : List LogSpan) (session : Session κ) : Effect → Session κ
  | .change change => { session with store := session.store.apply change }
  | .request request =>
      match session.send request with
      | (.ok (), sent) => sent
      | (.error refusal, unsent) =>
          unsent.record {
            level := .warn
            message := "failed to send follow-up request"
            fields := [("error", refusal.message)]
            spans }
  | .publish event =>
      match Channel.publish? session.feed event with
      | some feed => { session with feed }
      | none => session.record { Feed.lostRecord event with spans }
  | .note note =>
      match note.record? session.store with
      | some entry => session.record { entry with spans }
      | none => session

/-- The span of the log that encloses the handling of a message. -/
def dispatchSpan (kind : MessageKind) : LogSpan where
  name := "dispatch"
  fields := [("kind", kind.label)]

/-- What becomes of a script: success, or the reason why the message is malformed. -/
def outcome (message : Message) (script : Script) : Except Malformed Unit :=
  match script.failure with
  | some cause => .error { kind := message.kind, cause }
  | none => .ok ()

/-- Takes in a message. -/
def handle (session : Session κ) (message : Message) : Except Malformed Unit × Session κ :=
  let script := message.script session.settings session.self
  (outcome message script,
    script.effects.foldl (perform [dispatchSpan message.kind]) session)

/-- The span of the log that encloses the sending of an action's request. -/
def actionSpan (action : Action) : LogSpan where
  name := "action"
  fields := ("action", action.label) ::
    match action.target? with
    | some target => [("target", toString target)]
    | none => []

/-- The remark that an account cannot get messages. -/
def notRecipientRecord (id : AccountId) : LogRecord where
  level := .debug
  message := "not a message recipient"
  fields := [("to", toString id), ("account_type", id.kind.label)]

/-- Does what the user wants. -/
def act (session : Session κ) (action : Action) : Except LinkError Unit × Session κ :=
  let session :=
    { session with store := session.store.apply (.editPersona action.personaEdits) }
  match action.request session.self session.store.persona with
  | .error refusal =>
      (.error refusal, session.record (notRecipientRecord (action.target?.getD session.self)))
  | .ok request =>
      let session := session.record {
        level := .debug
        message := "sending request"
        spans := [actionSpan action] }
      session.send request

/-- The report on a malformed message that nobody waits for. -/
def failureRecord (malformed : Malformed) : LogRecord where
  level := .warn
  message := "inbound message failed"
  fields := [("kind", malformed.kind.label), ("error_code", Malformed.code),
    ("error", malformed.message)]

/-- Takes in a message and leaves a failure to the log. -/
def absorb (session : Session κ) (message : Message) : Session κ :=
  match session.handle message with
  | (.ok (), next) => next
  | (.error malformed, next) => next.record (failureRecord malformed)

/-- Takes in messages in the order of their arrival, until no more are to come. -/
def run (session : Session κ) (messages : List Message) : Session κ :=
  (messages.foldl absorb session).record
    { level := .debug, message := "inbound channel closed" }

end Session

end Presence
