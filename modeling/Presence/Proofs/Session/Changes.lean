import Presence.Proofs.Store.Entries
import Presence.Session.Basic

/-!
# What messages do to the store

A session performs the script of a message, and all that the store sees of a script are its changes.
They depend on the message and on the local account alone, `Message.changes`. So the store after a
run of messages is the old store after the changes of all of them, `Session.run_store`.
-/

namespace Presence

/-! ### The changes of a message -/

/-- The members that a room entry admits: those in front of the first that cannot be read. -/
def RoomEntry.admitted (entry : RoomEntry) : List Member :=
  match Roster.ofBytes entry.payload entry.announced with
  | .ok (_, roster) => roster.members
  | .error _ => []

/-- The changes to the store on entering a room. -/
def RoomEntry.changes (entry : RoomEntry) : List Change :=
  .enterRoom entry.room entry.clan :: entry.admitted.map (.seat entry.room)

/-- The state change that a report tells of, if it tells of one and can be read. -/
def MemberReport.change? (report : MemberReport) : Option StateChange :=
  if report.news = .known .stateChange then (StateChange.ofBytes report.payload).toOption else none

theorem MemberReport.change?_eq_some {report : MemberReport} {change : StateChange} :
    report.change? = some change ↔
      report.news = .known .stateChange ∧ StateChange.ofBytes report.payload = .ok change := by
  simp only [change?]
  split
  · next is_change => cases StateChange.ofBytes report.payload <;> simp [is_change, Except.toOption]
  · next not_change => simp [not_change]

theorem MemberReport.change?_of_broken {report : MemberReport} {shortfall : Shortfall}
    (broken : StateChange.ofBytes report.payload = .error shortfall) : report.change? = none := by
  apply Option.eq_none_iff_forall_ne_some.mpr
  intro change told
  have read := (change?_eq_some.mp told).2
  rw [broken] at read
  cases read

/-- The changes to the store when the state of a room's member changes. -/
def StateChange.changes (room : AccountId) (change : StateChange) : List Change :=
  match change.change, change.member with
  | .known .entered, some member => [.seat room { member with id := change.actedOn }]
  | kind, _ => if MemberChange.removes kind then [.dismiss room change.actedOn] else []

/-- The changes to the store that a message brings about in a session logged in as `self`. -/
def Message.changes (self : AccountId) : Message → List Change
  | .friendList list => list.entries.map FriendListEntry.change
  | .personaList list => list.records.filterMap (PersonaRecord.change? self list.fields)
  | .clanState state => [.editClan state.id state.edits]
  | .roomEntry entry => entry.changes
  | .memberReport report => report.change?.toList.flatMap (StateChange.changes report.room)
  | _ => []

/-- Whether a message is about rooms. -/
def Message.inRooms : Message → Bool
  | .roomEntry _ | .memberReport _ => true
  | _ => false

/-- An entry adds or removes a clan or a friend; it adds nobody without a relation. -/
theorem FriendListEntry.change_cases (entry : FriendListEntry) :
    (entry.id.isClan ∧
      (entry.change = .removeClan entry.id ∨
        (.ofCode entry.relation : Wire ClanRelation) ≠ .known .none ∧
          entry.change = .addClan { id := entry.id, relation := .ofCode entry.relation })) ∨
    (entry.id.isClan = false ∧
      (entry.change = .removeFriend entry.id ∨
        (.ofCode entry.relation : Wire FriendRelation) ≠ .known .none ∧
          entry.change = .addFriend { id := entry.id, relation := .ofCode entry.relation })) := by
  simp only [change]
  split
  · next is_clan =>
      refine .inl ⟨is_clan, ?_⟩
      split
      · exact .inl rfl
      · next related => exact .inr ⟨related, rfl⟩
  · next not_clan =>
      refine .inr ⟨Bool.eq_false_iff.mpr not_clan, ?_⟩
      split
      · exact .inl rfl
      · next related => exact .inr ⟨related, rfl⟩

/-- A record edits the local persona, a single person or a clan. -/
theorem PersonaRecord.change?_cases {self : AccountId} {fields : FlagSet PersonaField}
    {record : PersonaRecord} {change : Change} (told : record.change? self fields = some change) :
    (record.id = self ∧ change = .editPersona record.personaEdits) ∨
      (record.id.isIndividual ∧ change = .editFriend record.id (record.friendEdits fields)) ∨
        (record.id.isClan ∧
          change = .editClan record.id (clanIdentityEdits fields record.name record.avatar)) := by
  simp only [change?] at told
  split at told
  · next is_self => exact .inl ⟨is_self, (Option.some.inj told).symm⟩
  · split at told
    · next individual => exact .inr (.inl ⟨individual, (Option.some.inj told).symm⟩)
    · split at told
      · next is_clan => exact .inr (.inr ⟨is_clan, (Option.some.inj told).symm⟩)
      · cases told

theorem AccountId.isIndividual_of_isClan {id : AccountId} (is_clan : id.isClan) :
    id.isIndividual = false := by
  simp only [isClan, decide_eq_true_eq] at is_clan
  simp [isIndividual, is_clan]

theorem PersonaRecord.change?_of_individual {self : AccountId} {record : PersonaRecord}
    (not_self : record.id ≠ self) (individual : record.id.isIndividual)
    (fields : FlagSet PersonaField) :
    record.change? self fields = some (.editFriend record.id (record.friendEdits fields)) := by
  simp only [change?, if_neg not_self, if_pos individual]

theorem PersonaRecord.change?_of_clan {self : AccountId} {record : PersonaRecord}
    (not_self : record.id ≠ self) (is_clan : record.id.isClan) (fields : FlagSet PersonaField) :
    record.change? self fields =
      some (.editClan record.id (clanIdentityEdits fields record.name record.avatar)) := by
  have not_individual := AccountId.isIndividual_of_isClan is_clan
  simp [change?, not_self, not_individual, is_clan]

/-- A room entry sets its room up and seats members in it. -/
theorem RoomEntry.mem_changes {entry : RoomEntry} {change : Change}
    (change_mem : change ∈ entry.changes) :
    change = .enterRoom entry.room entry.clan ∨ ∃ member, change = .seat entry.room member := by
  rcases List.mem_cons.mp change_mem with sets_up | seat_mem
  · exact .inl sets_up
  · rcases List.mem_map.mp seat_mem with ⟨member, _, seats⟩
    exact .inr ⟨member, seats.symm⟩

/-- A state change seats the member concerned, dismisses the member, or changes nothing. -/
theorem StateChange.changes_cases (room : AccountId) (change : StateChange) :
    change.changes room = [] ∨
      (∃ member : Member, member.id = change.actedOn ∧ change.changes room = [.seat room member]) ∨
        change.changes room = [.dismiss room change.actedOn] := by
  simp only [changes]
  split
  · exact .inr (.inl ⟨_, rfl, rfl⟩)
  · split
    · exact .inr (.inr rfl)
    · exact .inl rfl

theorem StateChange.mem_changes {room : AccountId} {change : StateChange} {part : Change}
    (part_mem : part ∈ change.changes room) :
    (∃ member, part = .seat room member) ∨ part = .dismiss room change.actedOn := by
  rcases change.changes_cases room with nothing | ⟨member, _, seats⟩ | dismisses
  · rw [nothing] at part_mem
    cases part_mem
  · rw [seats] at part_mem
    exact .inl ⟨member, List.mem_singleton.mp part_mem⟩
  · rw [dismisses] at part_mem
    exact .inr (List.mem_singleton.mp part_mem)

/-- A report seats a member in its room or dismisses one. -/
theorem MemberReport.mem_changes {self : AccountId} {report : MemberReport} {change : Change}
    (change_mem : change ∈ (Message.memberReport report).changes self) :
    (∃ member, change = .seat report.room member) ∨ ∃ id, change = .dismiss report.room id := by
  rcases List.mem_flatMap.mp change_mem with ⟨told, _, part_mem⟩
  exact (StateChange.mem_changes part_mem).imp_right fun dismisses => ⟨told.actedOn, dismisses⟩

/-- A message about rooms sets a room up, seats a member or dismisses one. -/
theorem Message.mem_changes {self : AccountId} {message : Message} {change : Change}
    (change_mem : change ∈ message.changes self) (in_rooms : message.inRooms) :
    (∃ room clan, change = .enterRoom room clan) ∨ (∃ room member, change = .seat room member) ∨
      ∃ room id, change = .dismiss room id := by
  cases message with
  | roomEntry entry =>
      rcases RoomEntry.mem_changes change_mem with sets_up | ⟨member, seats⟩
      · exact .inl ⟨_, _, sets_up⟩
      · exact .inr (.inl ⟨_, _, seats⟩)
  | memberReport report =>
      rcases MemberReport.mem_changes change_mem with ⟨member, seats⟩ | ⟨id, dismisses⟩
      · exact .inr (.inl ⟨_, _, seats⟩)
      · exact .inr (.inr ⟨_, _, dismisses⟩)
  | _ => cases in_rooms

/-- A message about rooms changes nothing but rooms, and other messages change none. -/
theorem Message.inRooms_changes {self : AccountId} {message : Message} {change : Change}
    (change_mem : change ∈ message.changes self) : change.inRooms = message.inRooms := by
  cases message with
  | friendList list =>
      rcases List.mem_map.mp change_mem with ⟨entry, _, rfl⟩
      rcases entry.change_cases with ⟨_, told | ⟨_, told⟩⟩ | ⟨_, told | ⟨_, told⟩⟩ <;>
        rw [told] <;> rfl
  | personaList list =>
      rcases List.mem_filterMap.mp change_mem with ⟨record, _, told⟩
      rcases PersonaRecord.change?_cases told with ⟨_, rfl⟩ | ⟨_, rfl⟩ | ⟨_, rfl⟩ <;> rfl
  | clanState state => rw [List.mem_singleton.mp change_mem]; rfl
  | roomEntry entry =>
      rcases mem_changes change_mem rfl with ⟨_, _, rfl⟩ | ⟨_, _, rfl⟩ | ⟨_, _, rfl⟩ <;> rfl
  | memberReport report =>
      rcases mem_changes change_mem rfl with ⟨_, _, rfl⟩ | ⟨_, _, rfl⟩ | ⟨_, _, rfl⟩ <;> rfl
  | _ => cases change_mem

namespace Script

/-- The changes among some effects, in order. -/
def changesAmong (effects : List Effect) : List Change := { effects : Script }.changes

@[simp]
theorem changesAmong_nil : changesAmong [] = [] := rfl

@[simp]
theorem changesAmong_change (change : Change) (rest : List Effect) :
    changesAmong (.change change :: rest) = change :: changesAmong rest := rfl

@[simp]
theorem changesAmong_request (request : Request) (rest : List Effect) :
    changesAmong (.request request :: rest) = changesAmong rest := rfl

@[simp]
theorem changesAmong_publish (event : Event) (rest : List Effect) :
    changesAmong (.publish event :: rest) = changesAmong rest := rfl

@[simp]
theorem changesAmong_note (note : Note) (rest : List Effect) :
    changesAmong (.note note :: rest) = changesAmong rest := rfl

@[simp]
theorem changesAmong_append (first second : List Effect) :
    changesAmong (first ++ second) = changesAmong first ++ changesAmong second :=
  List.filterMap_append

@[simp]
theorem changesAmong_map {α : Type} (items : List α) (change : α → Change) :
    changesAmong (items.map fun item => .change (change item)) = items.map change := by
  induction items with
  | nil => rfl
  | cons item rest ih => simp only [List.map_cons, changesAmong_change, ih]

end Script

open Script

theorem FriendList.changes_script (asked : FlagSet PersonaField) (list : FriendList) :
    changesAmong (list.script asked).effects = list.entries.map FriendListEntry.change := by
  simp only [FriendList.script]
  split
  · generalize list.entries = entries
    induction entries with
    | nil => rfl
    | cons entry rest ih => simp [ih]
  · split <;> simp

theorem PersonaList.changes_script (self : AccountId) (list : PersonaList) :
    changesAmong (list.script self).effects =
      list.records.filterMap (PersonaRecord.change? self list.fields) := by
  simp only [PersonaList.script]
  generalize list.records = records
  induction records with
  | nil => rfl
  | cons record rest ih =>
      rw [List.flatMap_cons, changesAmong_append, ih]
      cases change : record.change? self list.fields <;> simp [PersonaRecord.effects, change]

theorem RoomEntry.changes_script (entry : RoomEntry) :
    changesAmong entry.script.effects = entry.changes := by
  simp only [RoomEntry.script, RoomEntry.changes, RoomEntry.admitted]
  cases Roster.ofBytes entry.payload entry.announced with
  | error shortfall => rfl
  | ok opened =>
      simp only
      split <;> simp

theorem StateChange.changes_effects (room : AccountId) (change : StateChange) :
    changesAmong (change.effects room) = change.changes room := by
  rcases change with ⟨actedOn, kind, actedBy, member⟩
  cases kind with
  | known meaning => cases meaning <;> cases member <;> rfl
  | other code => rfl

theorem MemberReport.changes_script (report : MemberReport) :
    changesAmong report.script.effects =
      report.change?.toList.flatMap (StateChange.changes report.room) := by
  simp only [MemberReport.script, MemberReport.change?]
  split
  · cases StateChange.ofBytes report.payload with
    | error shortfall => rfl
    | ok change => simp [StateChange.changes_effects, Except.toOption]
  · rfl

/-- All that the store sees of a message are its changes. -/
theorem Message.changes_script (settings : SessionSettings) (self : AccountId)
    (message : Message) : (message.script settings self).changes = message.changes self := by
  have changes_body : (message.script settings self).changes =
      changesAmong (message.body settings self).effects := rfl
  rw [changes_body]
  cases message with
  | accountInfo =>
      simp only [Message.body]
      split <;> rfl
  | friendList list => exact list.changes_script settings.friendFields
  | personaList list => exact list.changes_script self
  | roomEntry entry => exact entry.changes_script
  | memberReport report => exact report.changes_script
  | _ => rfl

/-! ### The store after a run -/

namespace Session

variable {κ : Type} [Channel κ]

theorem store_record (session : Session κ) (entry : LogRecord) :
    (session.record entry).store = session.store := rfl

theorem perform_store (spans : List LogSpan) (session : Session κ) (effect : Effect) :
    (session.perform spans effect).store = session.store.applyAll (changesAmong [effect]) := by
  cases effect with
  | change change => rfl
  | request request =>
      simp only [perform, send]
      cases session.link.refusal? <;> rfl
  | publish event =>
      simp only [perform]
      split <;> rfl
  | note note =>
      simp only [perform]
      split <;> rfl

theorem foldl_perform_store (spans : List LogSpan) (session : Session κ) (effects : List Effect) :
    (effects.foldl (perform spans) session).store =
      session.store.applyAll (changesAmong effects) := by
  induction effects generalizing session with
  | nil => rfl
  | cons effect rest ih =>
      rw [List.foldl_cons, ih, perform_store, ← Store.applyAll_append, ← changesAmong_append]
      rfl

theorem handle_store (session : Session κ) (message : Message) :
    (session.handle message).2.store = session.store.applyAll (message.changes session.self) := by
  rw [← Message.changes_script session.settings]
  exact foldl_perform_store ..

/-- Effects touch nothing but the store, the feed, the sent requests and the log. -/
theorem perform_unchanged {β : Type} {view : Session κ → β}
    (blind : ∀ (session : Session κ) store feed sent log,
      view { session with store, feed, sent, log } = view session)
    (spans : List LogSpan) (session : Session κ) (effect : Effect) :
    view (session.perform spans effect) = view session := by
  cases effect with
  | change change => exact blind session _ _ _ _
  | request request =>
      simp only [perform, send]
      cases session.link.refusal? <;> exact blind session _ _ _ _
  | publish event =>
      simp only [perform]
      split <;> exact blind session _ _ _ _
  | note note =>
      simp only [perform]
      split
      · exact blind session _ _ _ _
      · rfl

theorem handle_unchanged {β : Type} {view : Session κ → β}
    (blind : ∀ (session : Session κ) store feed sent log,
      view { session with store, feed, sent, log } = view session)
    (session : Session κ) (message : Message) : view (session.handle message).2 = view session := by
  simp only [handle]
  generalize (message.script session.settings session.self).effects = effects
  induction effects generalizing session with
  | nil => rfl
  | cons effect rest ih => rw [List.foldl_cons, ih, perform_unchanged blind]

theorem handle_self (session : Session κ) (message : Message) :
    (session.handle message).2.self = session.self :=
  handle_unchanged (fun _ _ _ _ _ => rfl) session message

theorem handle_settings (session : Session κ) (message : Message) :
    (session.handle message).2.settings = session.settings :=
  handle_unchanged (fun _ _ _ _ _ => rfl) session message

theorem absorb_store (session : Session κ) (message : Message) :
    (session.absorb message).store = session.store.applyAll (message.changes session.self) := by
  rw [← handle_store]
  simp only [absorb]
  split
  · next handled => rw [handled]
  · next handled => rw [handled]; rfl

theorem absorb_self (session : Session κ) (message : Message) :
    (session.absorb message).self = session.self := by
  rw [← session.handle_self message]
  simp only [absorb]
  split
  · next handled => rw [handled]
  · next handled => rw [handled]; rfl

/-- After a run of messages the store has undergone the changes of all of them. -/
theorem run_store (session : Session κ) (messages : List Message) :
    (session.run messages).store =
      session.store.applyAll (messages.flatMap (Message.changes session.self)) := by
  simp only [run, store_record]
  induction messages generalizing session with
  | nil => rfl
  | cons message rest ih =>
      rw [List.foldl_cons, ih, absorb_store, absorb_self, List.flatMap_cons,
        Store.applyAll_append]

/-- The session before it has learned anything, whatever the condition of the rest of it. -/
def afresh (session : Session κ) : Session κ := { session with store := {} }

end Session

end Presence
