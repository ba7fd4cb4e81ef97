import Presence.Proofs.Account
import Presence.Proofs.Session.Surroundings

/-!
# What the user's actions come down to

An action changes nothing that the session knows, except that the two actions on the local persona
set one field of it. It comes down to one request, which the link takes or refuses,
`Session.Asks`; only lines to accounts that get none come down to nothing. What is done in a room
may name the room or its clan, and comes down to the same request, `RoomDeed.exists_request`.
-/

namespace Presence

/-- Whether an account gets lines: people do, and so do rooms, which may be named by their clans. -/
def AccountId.GetsLines (id : AccountId) : Prop :=
  id.kind = .known .individual ∨ id.kind = .known .consoleUser ∨ id.HasRoom

/-! ### Requests -/

namespace Action

variable {recipient : AccountId}

theorem line_of_person (self : AccountId) (kind : Wire LineKind) (text : String)
    (is_person : recipient.kind = .known .individual ∨ recipient.kind = .known .consoleUser) :
    line self recipient kind text = .ok (.friendLine recipient kind (Utf8.encode text)) := by
  rcases is_person with kind_eq | kind_eq <;> simp only [line, kind_eq]

theorem line_of_hasRoom (self : AccountId) (kind : Wire LineKind) (text : String)
    (has_room : recipient.HasRoom) :
    line self recipient kind text =
      .ok (.roomLine recipient.toRoom self kind (Utf8.encode text)) := by
  rcases has_room with kind_eq | kind_eq <;> simp only [line, kind_eq]

theorem line_of_other (self : AccountId) (kind : Wire LineKind) (text : String)
    (gets_none : ¬recipient.GetsLines) :
    line self recipient kind text = .error (.rejected (cannotReceive recipient.kind)) := by
  simp only [line]
  split
  · next individual => exact absurd (.inl individual) gets_none
  · next console => exact absurd (.inr (.inl console)) gets_none
  · next clan => exact absurd (.inr (.inr (.inl clan))) gets_none
  · next room => exact absurd (.inr (.inr (.inr room))) gets_none
  · rfl

theorem exists_request {action : Action} (self : AccountId) (persona : Persona)
    (heard : ∀ recipient kind text, action = .send recipient kind text → recipient.GetsLines) :
    ∃ request, action.request self persona = .ok request := by
  cases action with
  | send recipient kind text =>
      rcases heard recipient kind text rfl with individual | console | has_room
      · exact ⟨_, line_of_person self kind text (.inl individual)⟩
      · exact ⟨_, line_of_person self kind text (.inr console)⟩
      · exact ⟨_, line_of_hasRoom self kind text has_room⟩
  | _ => exact ⟨_, rfl⟩

end Action

/-- The room that a request is about, if it is about one. -/
def Request.room? : Request → Option AccountId
  | .roomLine room .. | .enterRoom room | .reportMember room .. | .actOnMember room .. => some room
  | _ => none

/-- What the user may do in a room. -/
inductive RoomDeed where
  | enter
  | leave
  | kick (member : AccountId)
  | ban (member : AccountId)
  | unban (member : AccountId)
  | say (kind : Wire LineKind) (text : String)

namespace RoomDeed

/-- The action that does it in the room of the given name. -/
def action (named : AccountId) : RoomDeed → Action
  | .enter => .enterRoom named
  | .leave => .leaveRoom named
  | .kick member => .kick named member
  | .ban member => .ban named member
  | .unban member => .unban named member
  | .say kind text => .send named kind text

/-- Whether it is done in a room at all: a line is not if the name is that of a person. -/
def Suits (named : AccountId) : RoomDeed → Prop
  | .say .. => named.HasRoom
  | _ => True

theorem exists_request {deed : RoomDeed} {room : AccountId} (self : AccountId) (persona : Persona)
    (suits : deed.Suits room) :
    ∃ request, request.room? = some room.toRoom ∧
      (deed.action room).request self persona = .ok request ∧
      (deed.action room.toRoom).request self persona = .ok request := by
  cases deed with
  | say kind text =>
      have toRoom_has_room : room.toRoom.HasRoom := .inr (AccountId.kind_toRoom suits)
      refine ⟨_, rfl, Action.line_of_hasRoom self kind text suits, ?_⟩
      have asked := Action.line_of_hasRoom self kind text toRoom_has_room
      rw [room.toRoom_toRoom] at asked
      exact asked
  | _ =>
      refine ⟨_, rfl, rfl, ?_⟩
      simp only [action, Action.request, room.toRoom_toRoom]

end RoomDeed

/-! ### Actions -/

/-- The local persona after an action. -/
def Action.personaAfter (persona : Persona) : Action → Persona
  | .setName name => { persona with name }
  | .setStatus status => { persona with status }
  | _ => persona

namespace Session

/-- An action leaves alone what is known about others and what the subscriber hears; of the local
persona it sets at most what it is about. -/
structure Confined (session : Session) (action : Action) : Prop where
  friends_eq : (session.act action).2.store.friends = session.store.friends
  clans_eq : (session.act action).2.store.clans = session.store.clans
  rooms_eq : (session.act action).2.store.rooms = session.store.rooms
  feed_eq : (session.act action).2.feed = session.feed
  persona_eq : (session.act action).2.store.persona = action.personaAfter session.store.persona

/-- An action comes down to a request: that is sent and nothing else, unless the link refuses it,
which is then the answer. -/
structure Asks (session : Session) (action : Action) (request : Request) : Prop where
  taken : session.link.refusal? = none →
    (session.act action).1 = .ok () ∧ (session.act action).2.sent = session.sent ++ [request]
  refused : ∀ refusal, session.link.refusal? = some refusal →
    (session.act action).1 = .error refusal ∧ (session.act action).2.sent = session.sent

theorem confined_act (session : Session) (action : Action) : session.Confined action where
  friends_eq := by rw [act_store]; rfl
  clans_eq := by rw [act_store]; rfl
  rooms_eq := by rw [act_store]; rfl
  feed_eq := act_unchanged feed (fun _ _ _ _ => rfl) session action
  persona_eq := by
    rw [act_store]
    cases action <;> rfl

/-- The request of an action in a session, whose local persona is by then as the action leaves
it. -/
def requestOf (session : Session) (action : Action) : Except LinkError Request :=
  action.request session.self (session.store.persona.editAll action.personaEdits)

variable {session : Session} {action : Action}

theorem act_answer (session : Session) (action : Action) :
    (session.act action).1 =
      match session.requestOf action, session.link.refusal? with
      | .error refusal, _ | .ok _, some refusal => .error refusal
      | .ok _, none => .ok () := by
  have link_eq (session : Session) (entry : LogRecord) :
      (session.record entry).link = session.link := rfl
  have persona_eq : (session.store.apply (.editPersona action.personaEdits)).persona =
      session.store.persona.editAll action.personaEdits := rfl
  simp only [act, requestOf, persona_eq]
  cases action.request session.self (session.store.persona.editAll action.personaEdits) with
  | error refusal => rfl
  | ok request =>
      simp only [send, link_eq]
      cases session.link.refusal? <;> rfl

theorem act_of_no_request {refusal : LinkError}
    (no_request : session.requestOf action = .error refusal) :
    (session.act action).1 = .error refusal ∧ (session.act action).2.sent = session.sent := by
  have none_sent : session.request? action = none := congrArg Except.toOption no_request
  constructor
  · rw [act_answer, no_request]
  · rw [act_sent, none_sent, Option.toList_none, ite_self, List.append_nil]

theorem asks_of_request {request : Request} (asked : session.requestOf action = .ok request) :
    session.Asks action request := by
  have sent : session.request? action = some request := congrArg Except.toOption asked
  constructor
  · intro accepting
    rw [act_answer, act_sent, asked, sent, accepting]
    exact ⟨rfl, rfl⟩
  · intro refusal refused
    rw [act_answer, act_sent, asked, sent, refused]
    exact ⟨rfl, List.append_nil _⟩

/-- Actions are single requests. None of them changes what is known about others or publishes an
event. Each comes down to one request, except that a line to an account that gets none is rejected,
whatever the condition of the link. What is done in a room comes down to the same request whether
the room is named or its clan; the request names a room, and one of the same universe and number. -/
theorem single_requests (session : Session) :
    (∀ action, session.Confined action) ∧
    (∀ action,
      (∀ recipient kind text, action = .send recipient kind text → recipient.GetsLines) →
        ∃ request, session.Asks action request) ∧
    (∀ (recipient : AccountId) (kind : Wire LineKind) (text : String), ¬recipient.GetsLines →
      (session.act (.send recipient kind text)).1 =
          .error (.rejected (Action.cannotReceive recipient.kind)) ∧
        (session.act (.send recipient kind text)).2.sent = session.sent) ∧
    ∀ (deed : RoomDeed) (room : AccountId), deed.Suits room →
      ∃ request addressed, request.room? = some addressed ∧
        session.Asks (deed.action room) request ∧ session.Asks (deed.action room.toRoom) request ∧
        addressed.universeCode = room.universeCode ∧ addressed.number = room.number ∧
        (room.HasRoom → addressed.kind = .known .chat) := by
  refine ⟨session.confined_act, ?_, ?_, ?_⟩
  · intro action heard
    rcases Action.exists_request session.self
      (session.store.persona.editAll action.personaEdits) heard with ⟨request, asked⟩
    exact ⟨request, asks_of_request asked⟩
  · intro recipient kind text gets_none
    exact act_of_no_request (Action.line_of_other session.self kind text gets_none)
  · intro deed room suits
    -- Nothing done in a room touches the local persona.
    have persona_eq (named : AccountId) :
        session.requestOf (deed.action named) =
          (deed.action named).request session.self session.store.persona := by
      cases deed <;> rfl
    rcases deed.exists_request session.self session.store.persona suits with
      ⟨request, about, asked, asked_room⟩
    rw [← persona_eq] at asked asked_room
    refine ⟨request, room.toRoom, about, asks_of_request asked, asks_of_request asked_room, ?_⟩
    simp only [room.toRoom_eq_convert, AccountId.universeCode_convert, AccountId.number_convert,
      true_and]
    rw [← room.toRoom_eq_convert]
    exact AccountId.kind_toRoom

/-- A line goes to a clan with a stray instance, and to its room; a line to a game server is
rejected. -/
theorem single_requests_of_stray_instance :
    let clan : AccountId := ⟨0x0170000500000003⟩
    let server : AccountId := ⟨0x0130000000000003⟩
    let session : Session := { self := ⟨0x110000100000001⟩ }
    let lost : Session := { session with link := { closed := true } }
    let line : RoomDeed := .say (.known .chatMsg) "a"
    session.link.refusal? = none ∧ line.Suits clan ∧ ¬server.GetsLines ∧
      (∃ request, (session.act (line.action clan)).2.sent = [request] ∧
        (session.act (line.action clan.toRoom)).2.sent = [request] ∧
        (lost.act (line.action clan)).1 = .error .closed ∧
        (lost.act (line.action clan)).2.sent = []) ∧
      (lost.act (.send server (.known .chatMsg) "a")).1 =
        .error (.rejected "cannot message account type GameServer") := by
  intro clan server session lost line
  have accepting : session.link.refusal? = none := rfl
  have refused : lost.link.refusal? = some .closed := rfl
  have suits : line.Suits clan := .inl (by decide)
  have gets_none : ¬server.GetsLines := by
    rintro (individual | console | is_clan | is_room)
    · exact absurd individual (by decide)
    · exact absurd console (by decide)
    · exact absurd is_clan (by decide)
    · exact absurd is_room (by decide)
  obtain ⟨-, -, -, in_rooms⟩ := single_requests session
  obtain ⟨-, requests, rejects, -⟩ := single_requests lost
  obtain ⟨request, addressed, -, asked, asked_room, -⟩ := in_rooms line clan suits
  obtain ⟨_, asked_lost⟩ := requests (line.action clan) (by
    rintro _ _ _ ⟨rfl⟩
    exact .inr (.inr suits))
  have why : Action.cannotReceive server.kind = "cannot message account type GameServer" := by
    decide
  rw [← why]
  refine ⟨accepting, suits, gets_none, ?_, (rejects server (.known .chatMsg) "a" gets_none).1⟩
  exact ⟨request, (asked.taken accepting).2, (asked_room.taken accepting).2,
    (asked_lost.refused _ refused).1, (asked_lost.refused _ refused).2⟩

end Session

end Presence
