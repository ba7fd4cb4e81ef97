import Presence.Proofs.Avatar
import Presence.Proofs.Registry
import Presence.Proofs.Rooms.WholeRoster

/-!
# What a run publishes and sends

`Message.published` are the events that tell of a message, and `Message.requested` are the requests
that follow from it. Neither depends on what the session knows, so that whatever a run of messages
publishes and sends is known from the messages alone, `Session.output_run`.
-/

namespace Presence

/-! ### What is told of the parts of a message -/

/-- What is told of an entry of a list of changes: the relation that was received. -/
def FriendListEntry.told (entry : FriendListEntry) : Event :=
  if entry.id.isClan then .clanRelation entry.id (.ofCode entry.relation)
  else .friendRelation entry.id (.ofCode entry.relation)

/-- What is told of a persona record: all that was received, whoever the record is about. -/
def PersonaRecord.told (fields : FlagSet PersonaField) (record : PersonaRecord) : PersonaEvent where
  fields := fields
  id := record.id
  status := .ofCode record.status
  traits := ⟨record.traits.toBitVec⟩
  appId := record.appId
  gameId := record.gameId
  gameName := record.gameName
  serverAddress := record.serverAddress
  serverPort := record.serverPort
  queryPort := record.queryPort
  source := record.source
  gameData := record.gameData
  name := record.name
  avatar := Avatar.fingerprint record.avatarDigest
  lastLogoff := record.lastLogoff
  lastLogon := record.lastLogon
  clanRank := record.clanRank
  clanTag := record.clanTag
  onlineInstances := record.onlineInstances
  publishedInstance := record.publishedInstance
  setByUser := record.setByUser
  facebookName := record.facebookName
  facebookId := record.facebookId

/-- What is told of a clan: all that was received, and nothing where nothing was received. -/
def ClanState.told (state : ClanState) : ClanEvent where
  id := state.id
  fields := state.fields
  accountFlags := state.accountFlags
  name := (state.name.map (·.name)).getD ""
  avatar := (state.name.map fun named => Avatar.fingerprint named.avatarDigest).getD ""
  counts := state.counts.getD { total := 0, online := 0, chatting := 0, inGame := 0 }
  events := state.events
  announcements := state.announcements

/-- What is told of a line from one person. -/
def FriendLine.told (line : FriendLine) : LineEvent where
  room := none
  sender := line.sender
  text := Utf8.decodeUntilZero line.text
  kind := line.kind
  time := some line.time

/-- What is told of a line in a room. -/
def RoomLine.told (line : RoomLine) : LineEvent where
  room := some line.room
  sender := line.sender
  text := Utf8.decodeUntilZero line.text
  kind := line.kind
  time := none

/-- What is told of the entry into a room, whose name stands in front of the roster. -/
def RoomEntry.told (entry : RoomEntry) (name : String) : EntryEvent where
  room := entry.room
  friend := entry.friend
  kind := entry.kind
  owner := entry.owner
  clan := entry.clan
  flags := entry.flags
  answer := entry.answer
  name := name

/-- What is told of a report about a member. -/
def MemberReport.told (report : MemberReport) (change : StateChange) : MemberEvent where
  room := report.room
  news := report.news
  actedOn := change.actedOn
  change := change.change
  actedBy := change.actedBy

theorem FriendListEntry.event_eq_told (entry : FriendListEntry) : entry.event = entry.told := rfl

theorem PersonaRecord.event_eq_told (record : PersonaRecord) (fields : FlagSet PersonaField) :
    record.event fields = record.told fields := rfl

theorem ClanState.event_eq_told (state : ClanState) : state.event = state.told := by
  rcases state with ⟨_, _, _, name, _, _, _⟩
  cases name <;> rfl

theorem RoomEntry.event_eq_told (entry : RoomEntry) (name : String) :
    entry.event name = entry.told name := rfl

theorem MemberReport.event_eq_told (report : MemberReport) (change : StateChange) :
    report.event change = report.told change := rfl

/-- What is told of an entry says all that was received. -/
theorem FriendListEntry.told_inj {first second : FriendListEntry} :
    first.told = second.told ↔ first = second := by
  refine ⟨fun told_eq => ?_, fun entry_eq => entry_eq ▸ rfl⟩
  rcases first with ⟨id, code⟩
  rcases second with ⟨otherId, otherCode⟩
  simp only [told] at told_eq
  -- An entry about a clan and one about a person make different kinds of events.
  split at told_eq <;> split at told_eq <;> simp_all [Wire.ofCode_inj]

/-- What is told of a record says all that was received, and which fields of it were meant. -/
theorem PersonaRecord.told_inj {first second : PersonaRecord}
    {fields otherFields : FlagSet PersonaField} :
    first.told fields = second.told otherFields ↔ first = second ∧ fields = otherFields := by
  refine ⟨fun told_eq => ?_, fun ⟨record_eq, fields_eq⟩ => by rw [record_eq, fields_eq]⟩
  rcases first with ⟨⟩
  rcases second with ⟨⟩
  -- Some fields are not told as they were received, but none of them loses anything.
  simp only [told, Avatar.fingerprint, PersonaEvent.mk.injEq, Wire.ofCode_inj,
    FlagSet.mk.injEq, UInt32.toBitVec_inj, String.ofList_inj, Hex.ofBytes_inj] at told_eq
  simp_all

/-! ### What one message publishes and sends -/

namespace Message

/-- The events that tell of a message. -/
def published : Message → List Event
  | .friendList list =>
      if list.incremental then list.entries.map FriendListEntry.told else [.friendList]
  | .personaList list => list.records.map fun record => .persona (record.told list.fields)
  | .clanState state => [.clan state.told]
  | .friendLine line => [.line line.told]
  | .roomLine line => [.line line.told]
  | .roomEntry entry =>
      match entry.whole with
      | .ok (name, _) => [.entry (entry.told name)]
      | .error _ => []
  | .memberReport report => report.change?.toList.map fun change => .member (report.told change)
  | .roomActionOutcome outcome => [.roomActionOutcome outcome]
  | .invitation received => [.invitation received]
  | .friendAnswer answer => [.friendAnswer answer]
  | .ignoreAnswer result => [.ignoreAnswer result]
  | .profile received => [.profile received]
  | .accountInfo | .other .. => []

/-- The requests that follow from a message: after login for the persona of the local account, and
after a complete friend list for those of the people on it, whatever their relation is. -/
def requested (settings : SessionSettings) (self : AccountId) : Message → List Request
  | .accountInfo =>
      if settings.asksForSelf then [.personas settings.selfFields [self]] else []
  | .friendList list =>
      let people := (list.entries.filter fun entry => !entry.id.isClan).map (·.id)
      if list.incremental ∨ people = [] then [] else [.personas settings.friendFields people]
  | _ => []

end Message

open Script

theorem FriendList.events_script (asked : FlagSet PersonaField) (list : FriendList) :
    eventsAmong (list.script asked).effects = (Message.friendList list).published := by
  simp only [FriendList.script, Message.published]
  split
  · generalize list.entries = entries
    induction entries with
    | nil => rfl
    | cons entry rest ih => simpa [entry.event_eq_told] using ih
  · split <;> simp

theorem FriendList.people_eq (list : FriendList) :
    list.people = (list.entries.filter fun entry => !entry.id.isClan).map (·.id) :=
  List.filter_map

theorem FriendList.requests_script (settings : SessionSettings) (self : AccountId)
    (list : FriendList) :
    requestsAmong (list.script settings.friendFields).effects =
      (Message.friendList list).requested settings self := by
  simp only [FriendList.script, Message.requested, ← list.people_eq]
  by_cases incremental : list.incremental
  · rw [if_pos incremental, if_pos (.inl incremental)]
    generalize list.entries = entries
    induction entries with
    | nil => rfl
    | cons entry rest ih => simpa using ih
  · rw [if_neg incremental]
    by_cases nobody : list.people = []
    · simp [nobody]
    · simp [nobody, incremental]

theorem PersonaList.output_script (self : AccountId) (list : PersonaList) :
    eventsAmong (list.script self).effects = (Message.personaList list).published ∧
      requestsAmong (list.script self).effects = [] := by
  simp only [PersonaList.script, Message.published]
  generalize list.records = records
  induction records with
  | nil => exact ⟨rfl, rfl⟩
  | cons record rest ih =>
      rcases ih with ⟨events_eq, requests_eq⟩
      rw [List.flatMap_cons, eventsAmong_append, requestsAmong_append, events_eq, requests_eq,
        PersonaRecord.effects]
      cases record.change? self list.fields <;> simp [record.event_eq_told]

theorem RoomEntry.events_script (entry : RoomEntry) :
    eventsAmong entry.script.effects = (Message.roomEntry entry).published := by
  simp only [Message.published]
  cases read : entry.whole with
  | error shortfall => exact events_script_of_failure (failure_of_broken read)
  | ok found =>
      rw [script_of_whole read]
      simp [entry.event_eq_told]

theorem StateChange.output_effects (room : AccountId) (change : StateChange) :
    eventsAmong (change.effects room) = [] ∧ requestsAmong (change.effects room) = [] := by
  simp only [effects]
  split
  · exact ⟨rfl, rfl⟩
  · split <;> exact ⟨rfl, rfl⟩

theorem MemberReport.output_script (report : MemberReport) :
    eventsAmong report.script.effects = (Message.memberReport report).published ∧
      requestsAmong report.script.effects = [] := by
  simp only [MemberReport.script, Message.published, MemberReport.change?]
  split
  · cases StateChange.ofBytes report.payload with
    | error shortfall => exact ⟨rfl, rfl⟩
    | ok change =>
        rcases change.output_effects report.room with ⟨no_events, no_requests⟩
        simp [no_events, no_requests, Except.toOption, report.event_eq_told]
  · exact ⟨rfl, rfl⟩

/-- The events in a script are those that tell of the message. -/
theorem Message.events_script (settings : SessionSettings) (self : AccountId)
    (message : Message) : (message.script settings self).events = message.published := by
  have events_body : (message.script settings self).events =
      eventsAmong (message.body settings self).effects := rfl
  rw [events_body]
  cases message with
  | accountInfo =>
      simp only [Message.body]
      split <;> rfl
  | friendList list => exact list.events_script settings.friendFields
  | personaList list => exact (list.output_script self).1
  | clanState state => exact congrArg (fun event => [Event.clan event]) state.event_eq_told
  | roomEntry entry => exact entry.events_script
  | memberReport report => exact report.output_script.1
  | _ => rfl

/-- The requests in a script are those that follow from the message. -/
theorem Message.requests_script (settings : SessionSettings) (self : AccountId)
    (message : Message) :
    (message.script settings self).requests = message.requested settings self := by
  have requests_body : (message.script settings self).requests =
      requestsAmong (message.body settings self).effects := rfl
  rw [requests_body]
  cases message with
  | accountInfo =>
      simp only [Message.body, Message.requested]
      split <;> rfl
  | friendList list => exact list.requests_script settings self
  | personaList list => exact (list.output_script self).2
  | roomEntry entry => exact entry.requests_script
  | memberReport report => exact report.output_script.2
  | _ => rfl

/-! ### A run of messages -/

namespace Session

variable {κ : Type} [Channel κ]

/-- The channel after a run, whether or not anybody is subscribed to it. -/
theorem run_channel (session : Session κ) (messages : List Message) :
    (session.run messages).feed =
      (messages.flatMap Message.published).foldl Channel.publish session.feed := by
  simp only [run, record]
  induction messages generalizing session with
  | nil => rfl
  | cons message rest ih =>
      rw [List.foldl_cons, ih, absorb_congr feed fun _ => rfl, handle_channel,
        Message.events_script, List.flatMap_cons, List.foldl_append]

/-- The requests sent after a run, whether or not the link takes them. -/
theorem run_sent (session : Session κ) (messages : List Message) :
    (session.run messages).sent =
      session.sent ++ if session.link.refusal?.isNone then
        messages.flatMap (Message.requested session.settings session.self) else [] := by
  simp only [run, record]
  induction messages generalizing session with
  | nil => simp
  | cons message rest ih =>
      have link_eq : (session.absorb message).link = session.link := by
        rw [absorb_congr link fun _ => rfl, handle_link]
      have settings_eq : (session.absorb message).settings = session.settings := by
        rw [absorb_congr settings fun _ => rfl, handle_settings]
      rw [List.foldl_cons, ih, link_eq, settings_eq, absorb_self,
        absorb_congr sent fun _ => rfl, handle_sent, Message.requests_script]
      split
      · rw [List.append_assoc, List.flatMap_cons]
      · simp

/-- The law of output. While somebody is subscribed and the link takes requests, a run publishes the
events that tell of its messages and sends the requests that follow from them, in the order of their
arrival, whatever the session knows. What is told of entries and records says all that was
received. -/
theorem output_run [LawfulChannel κ] (session : Session κ) (messages : List Message)
    (there : Channel.isClosed session.feed = false) (accepting : session.link.refusal? = none) :
    Channel.waiting (session.run messages).feed =
        Channel.waiting session.feed ++ messages.flatMap Message.published ∧
      Channel.SameEnds session.feed (session.run messages).feed ∧
      (session.run messages).sent =
        session.sent ++ messages.flatMap (Message.requested session.settings session.self) ∧
      (∀ first second : FriendListEntry, first.told = second.told ↔ first = second) ∧
      ∀ (first second : PersonaRecord) (fields otherFields : FlagSet PersonaField),
        first.told fields = second.told otherFields ↔ first = second ∧ fields = otherFields := by
  refine ⟨?_, ?_, ?_, ?_, ?_⟩
  · rw [run_channel, Channel.waiting_foldl_publish there]
  · rw [run_channel]
    exact Channel.sameEnds_foldl_publish session.feed _
  · rw [run_sent, accepting]
    rfl
  · intro first second
    exact FriendListEntry.told_inj
  · intro first second fields otherFields
    exact PersonaRecord.told_inj

/-- A friend whose relation is known is listed with another one, together with a clan that was never
heard of; then everybody is listed, the local account is sighted in that clan, the clan tells its
numbers of members, and a roster and a report follow that cannot be read. -/
theorem output_run_of_known_friend :
    let friend : AccountId := ⟨0x110000100000002⟩
    let clan : AccountId := ⟨0x170000000000003⟩
    let known : Friend := { id := friend, relation := .known .friend }
    let session : Session :=
      { self := ⟨0x110000100000001⟩, store := { friends := Table.insert ∅ friend known } }
    let sighting : PersonaRecord :=
      { (default : PersonaRecord) with id := session.self, source := clan, name := "a" }
    let state : ClanState :=
      { (default : ClanState) with id := clan, counts := some ⟨4, 3, 2, 1⟩ }
    let messages : List Message := [.friendList ⟨true, [⟨friend, 2⟩, ⟨clan, 0⟩]⟩,
      .friendList ⟨false, [⟨friend, 3⟩, ⟨clan, 3⟩]⟩, .personaList ⟨.ofList [.status], [sighting]⟩,
      .clanState state, .roomEntry { (default : RoomEntry) with
        memberCount := 1, payload := [0, 0, 0] }, .memberReport ⟨clan, .known .stateChange, [1]⟩]
    Channel.isClosed session.feed = false ∧ session.link.refusal? = none ∧
      (∃ persona told, Channel.waiting (session.run messages).feed =
          [.friendRelation friend (.known .requestRecipient), .clanRelation clan (.known .none),
            .friendList, .persona persona, .clan told] ∧
        persona.id = session.self ∧ persona.source = clan ∧ persona.name = "a" ∧
        told.id = clan ∧ told.counts = ⟨4, 3, 2, 1⟩) ∧
      (session.run messages).sent = [.personas session.settings.friendFields [friend]] := by
  intro friend clan known session sighting state messages
  obtain ⟨waiting_eq, -, sent_eq, -⟩ := output_run session messages rfl rfl
  have published_eq : messages.flatMap Message.published =
      [.friendRelation friend (.known .requestRecipient), .clanRelation clan (.known .none),
        .friendList, .persona (sighting.told (.ofList [.status])), .clan state.told] := by decide
  have requested_eq : messages.flatMap (Message.requested session.settings session.self) =
      [.personas session.settings.friendFields [friend]] := by decide
  refine ⟨rfl, rfl, ⟨sighting.told (.ofList [.status]), state.told, ?_, ?_⟩, ?_⟩
  · rw [waiting_eq, published_eq]
    rfl
  · exact ⟨rfl, rfl, rfl, rfl, rfl⟩
  · rw [sent_eq, requested_eq]
    rfl

end Session

end Presence
