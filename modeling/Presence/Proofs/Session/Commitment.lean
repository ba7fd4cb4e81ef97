import Presence.Proofs.People.Shown
import Presence.Proofs.Rooms.Seats
import Presence.Proofs.Session.Publication

/-!
# What is stored when an event is published

A subscriber who looks at the store as soon as an event is published finds there what the event
tells of, `Session.committed_of_published`. The session is looked at in the midst of a message,
`Session.amidst`, when all the effects in front of the event are done and none behind it. By then
the message has been dealt with up to the part that the event is about, `Message.upTo`.
-/

namespace Presence

open Script

/-- The session in the midst of a message, when some effects of it are done. -/
def Session.amidst (session : Session) (message : Message) (done : List Effect) : Session :=
  done.foldl (perform [dispatchSpan message.kind]) session

/-- The message up to the part that its event at `index` is about. The parts of a complete friend
list are not published one by one. -/
def Message.upTo (index : Nat) : Message → Message
  | .friendList list =>
      if list.incremental then .friendList { list with entries := list.entries.take (index + 1) }
      else .friendList list
  | .personaList list => .personaList { list with records := list.records.take (index + 1) }
  | message => message

/-! ### What is done before an event -/

section Split

variable {front tail done rest : List Effect} {first event : Event}

/-- An event is either the first that some effects publish, or it is published after the first. -/
theorem split_of_publish (quiet : eventsAmong front = [])
    (split : front ++ .publish first :: tail = done ++ .publish event :: rest) :
    (done = front ∧ rest = tail) ∨
      ∃ later, done = front ++ .publish first :: later ∧
        tail = later ++ .publish event :: rest := by
  rcases List.append_eq_append_iff.mp split with
    ⟨between, done_eq, tail_eq⟩ | ⟨between, front_eq, rest_eq⟩
  · rcases between with _ | ⟨effect, later⟩
    · rw [List.nil_append, List.cons.injEq] at tail_eq
      rw [List.append_nil] at done_eq
      exact .inl ⟨done_eq, tail_eq.2.symm⟩
    · rw [List.cons_append, List.cons.injEq] at tail_eq
      rw [← tail_eq.1] at done_eq
      exact .inr ⟨later, done_eq, tail_eq.2⟩
  · rcases between with _ | ⟨effect, later⟩
    · rw [List.nil_append, List.cons.injEq] at rest_eq
      rw [List.append_nil] at front_eq
      exact .inl ⟨front_eq.symm, rest_eq.2⟩
    · -- The event would be in `front`, where nothing is published.
      rw [List.cons_append, List.cons.injEq] at rest_eq
      rw [front_eq, ← rest_eq.1] at quiet
      simp at quiet

/-- Behind the only event nothing is done. -/
theorem rest_eq_nil (front : List Effect) (quiet : eventsAmong front = [])
    (split : front ++ [.publish first] = done ++ .publish event :: rest) : rest = [] := by
  rcases split_of_publish quiet split with ⟨_, rest_eq⟩ | ⟨later, _, nil_eq⟩
  · exact rest_eq
  · simp at nil_eq

/-- If every item is published after it has been taken up, then so many items have been taken up
before an event as events are published with it. -/
theorem changesAmong_items {α : Type} (takeUp : α → List Effect) {tell : α → Event}
    (quiet : ∀ item, eventsAmong (takeUp item) = []) {items : List α}
    (split : items.flatMap (fun item => takeUp item ++ [.publish (tell item)]) =
      done ++ .publish event :: rest) :
    changesAmong done =
      (items.take ((eventsAmong done).length + 1)).flatMap fun item =>
        changesAmong (takeUp item) := by
  induction items generalizing done with
  | nil => simp at split
  | cons item others ih =>
      rw [List.flatMap_cons, List.append_assoc, List.singleton_append] at split
      rcases split_of_publish (quiet item) split with ⟨rfl, _⟩ | ⟨later, rfl, others_split⟩
      · simp [quiet item]
      · have later_changes := ih others_split
        simp [quiet item, later_changes]

end Split

/-- A room is published when its members have been seated. -/
theorem RoomEntry.effects_of_whole {entry : RoomEntry} {name : String} {members : List Member}
    (whole : entry.whole = .ok (name, members)) :
    ∃ front, eventsAmong front = [] ∧
      entry.script.effects = front ++ [.publish (.entry (entry.event name))] := by
  refine ⟨.change (.enterRoom entry.room entry.clan) ::
    .note (.readingRoster entry.room entry.announced) ::
    members.map (fun member => .change (.seat entry.room member)) ++
    [.note (.rosterRead entry.room entry.announced)], ?_, ?_⟩
  · simp
  · simp [script_of_whole whole]

/-- A state change is published when it has been made. -/
theorem MemberReport.effects_of_change? {report : MemberReport} {change : StateChange}
    (told : report.change? = some change) :
    ∃ front, eventsAmong front = [] ∧
      report.script.effects = front ++ [.publish (.member (report.event change))] := by
  rcases change?_eq_some.mp told with ⟨is_change, read⟩
  refine ⟨change.effects report.room, (change.output_effects report.room).1, ?_⟩
  rw [script, if_pos is_change, read]

namespace Message

variable {settings : SessionSettings} {self : AccountId} {message : Message}
  {done rest : List Effect} {event : Event}

theorem changes_before_entry {list : FriendList} {asked : FlagSet PersonaField}
    (incremental : list.incremental)
    (split : (list.script asked).effects = done ++ .publish event :: rest) :
    changesAmong done = ((friendList list).upTo (eventsAmong done).length).changes self := by
  simp only [FriendList.script, if_pos incremental] at split
  have taken := changesAmong_items (fun entry : FriendListEntry => [.change entry.change])
    (fun entry => rfl) split
  rw [taken, upTo, if_pos incremental]
  exact List.map_eq_flatMap.symm

theorem changes_before_record {list : PersonaList}
    (split : (list.script self).effects = done ++ .publish event :: rest) :
    changesAmong done = ((personaList list).upTo (eventsAmong done).length).changes self := by
  have change_of (record : PersonaRecord) :
      changesAmong ((record.change? self list.fields).toList.map .change) =
        (record.change? self list.fields).toList := by
    cases record.change? self list.fields <;> rfl
  have taken := changesAmong_items (fun record : PersonaRecord =>
    (record.change? self list.fields).toList.map .change) (fun record => eventsAmong_map _ _) split
  simp only [taken, change_of]
  exact (List.filterMap_eq_flatMap_toList ..).symm

/-- Either the event is the end of the message, or the message consists of parts that are published
one by one and sends nothing. -/
theorem publication_cases
    (split : (message.body settings self).effects = done ++ .publish event :: rest) :
    (rest = [] ∧ ∀ index, message.upTo index = message) ∨
      (message.requested settings self = [] ∧
        changesAmong done = (message.upTo (eventsAmong done).length).changes self) := by
  have heard : message.published ≠ [] := by
    have events_eq : eventsAmong (message.body settings self).effects = message.published :=
      message.events_script settings self
    simp [← events_eq, split]
  cases message with
  | accountInfo => exact absurd rfl heard
  | friendList list =>
      by_cases incremental : list.incremental
      · exact .inr ⟨if_pos (.inl incremental), changes_before_entry incremental split⟩
      · left
        simp only [body, FriendList.script, if_neg incremental] at split
        refine ⟨rest_eq_nil _ ?_ split, fun index => if_neg incremental⟩
        split <;> simp
  | personaList list => exact .inr ⟨rfl, changes_before_record split⟩
  | clanState state => exact .inl ⟨rest_eq_nil [.change _] rfl split, fun _ => rfl⟩
  | roomEntry entry =>
      cases read : entry.whole with
      | error shortfall => simp [published, read] at heard
      | ok found =>
          rcases RoomEntry.effects_of_whole read with ⟨front, quiet, effects_eq⟩
          exact .inl ⟨rest_eq_nil front quiet (effects_eq.symm.trans split), fun _ => rfl⟩
  | memberReport report =>
      cases told : report.change? with
      | none => simp [published, told] at heard
      | some change =>
          rcases MemberReport.effects_of_change? told with ⟨front, quiet, effects_eq⟩
          exact .inl ⟨rest_eq_nil front quiet (effects_eq.symm.trans split), fun _ => rfl⟩
  | other code payload => exact absurd rfl heard
  | _ => exact .inl ⟨rest_eq_nil [] rfl split, fun _ => rfl⟩

/-- When an event is published, it is the next one of the message, the message has been taken up as
far as the part that the event is about, and its requests have been handed over. -/
theorem done_before
    (split : (message.script settings self).effects = done ++ .publish event :: rest) :
    message.published[(eventsAmong done).length]? = some event ∧
      changesAmong done = (message.upTo (eventsAmong done).length).changes self ∧
      requestsAmong done = message.requested settings self := by
  have events_eq : eventsAmong (message.script settings self).effects = message.published :=
    message.events_script settings self
  have changes_eq : changesAmong (message.script settings self).effects = message.changes self :=
    message.changes_script settings self
  have requests_eq : requestsAmong (message.script settings self).effects =
      message.requested settings self := message.requests_script settings self
  rw [split, eventsAmong_append] at events_eq
  rw [split, changesAmong_append] at changes_eq
  rw [split, requestsAmong_append] at requests_eq
  refine ⟨by simp [← events_eq], ?_⟩
  -- The first effect is a remark for the log, so the event is one of the body.
  rcases List.cons_eq_append_iff.mp split with ⟨_, impossible⟩ | ⟨started, rfl, body_split⟩
  · cases impossible
  · rcases publication_cases body_split with ⟨rfl, upTo_eq⟩ | ⟨nothing, changes_done⟩
    · rw [upTo_eq]
      exact ⟨by simpa using changes_eq, by simpa using requests_eq⟩
    · rw [nothing] at requests_eq ⊢
      exact ⟨changes_done, (List.append_eq_nil_iff.mp requests_eq).1⟩

/-- What a subscriber finds in the store of a session logged in as `self` when the event of a message
at `index` is published, the store having been `before` at the beginning of the message. The event
names the account or the room that it is about. Lines, invitations and answers have nothing to do
with the store. -/
def BorneOut (self : AccountId) (before store : Store) (index : Nat) (event : Event) :
    Message → Prop
  | .friendList list =>
      if list.incremental then
        ∃ entry, list.entries[index]? = some entry ∧ event = entry.event ∧ store.Agrees event
      else
        event = .friendList ∧ ∀ id code,
          latest? (News.listed? id) (list.entries.map .listed) = some code →
            (store.lists id ↔ code ≠ 0)
  | .personaList list =>
      ∃ record, list.records[index]? = some record ∧
        event = .persona (record.event list.fields) ∧
        (record.event list.fields).id = record.id ∧
        store.Shows self { fields := list.fields, record }
  | .clanState state =>
      event = .clan state.event ∧ state.event.id = state.id ∧
        ∀ clan, store.clans.get? state.id = some clan → clan.Reflects state
  | .roomEntry entry =>
      ∃ name members roster, entry.whole = .ok (name, members) ∧
        event = .entry (entry.event name) ∧ (entry.event name).room = entry.room ∧
        store.rooms.get? entry.room =
          some { id := entry.room, clan := entry.clan, members := roster } ∧
        ∀ id, roster.get? id =
          latest? (fun member => if member.id = id then some member else none) members
  | .memberReport report =>
      ∃ change, report.change? = some change ∧ event = .member (report.event change) ∧
        (report.event change).room = report.room ∧
        (report.event change).actedOn = change.actedOn ∧
        ∀ seat, change.seat? change.actedOn = some seat →
          store.member? report.room change.actedOn = seat
  | _ => store = before

theorem borneOut_incremental {list : FriendList} {index : Nat} (incremental : list.incremental)
    (published : (friendList list).published[index]? = some event) (store : Store) :
    (friendList list).BorneOut self store
      (store.applyAll (((friendList list).upTo index).changes self)) index event := by
  simp only [Message.published, if_pos incremental, List.getElem?_map,
    Option.map_eq_some_iff] at published
  rcases published with ⟨entry, entry_at, rfl⟩
  have last : latest? (News.listed? entry.id) ((list.entries.take (index + 1)).map .listed) =
      some entry.relation := by
    rw [List.take_add_one, entry_at, List.map_append, latest?_append]
    simp [News.listed?]
  simp only [BorneOut, upTo, if_pos incremental]
  refine ⟨entry, entry_at, rfl, ?_⟩
  rw [← entry.event_eq_told, Store.agrees_event_iff]
  exact store.lists_applyAll last

theorem borneOut_record {list : PersonaList} {index : Nat}
    (published : (personaList list).published[index]? = some event) (store : Store) :
    (personaList list).BorneOut self store
      (store.applyAll (((personaList list).upTo index).changes self)) index event := by
  simp only [Message.published, List.getElem?_map, Option.map_eq_some_iff] at published
  rcases published with ⟨record, record_at, rfl⟩
  refine ⟨record, record_at, rfl, rfl, ?_⟩
  simp only [upTo, changes]
  rw [List.take_add_one, record_at, List.filterMap_eq_flatMap_toList, List.flatMap_append,
    Option.toList_some, List.flatMap_singleton, Store.applyAll_append]
  exact Store.shows_applyAll _ self { fields := list.fields, record }

theorem borneOut_entry {entry : RoomEntry} {index : Nat}
    (published : (roomEntry entry).published[index]? = some event) (store : Store) :
    (roomEntry entry).BorneOut self store
      (store.applyAll ((roomEntry entry).changes self)) index event := by
  simp only [Message.published] at published
  cases read : entry.whole with
  | error shortfall => simp [read] at published
  | ok found =>
      rw [read] at published
      cases List.mem_singleton.mp (List.mem_of_getElem? published)
      rcases store.applyAll_entry entry with ⟨roster, get?_eq, store_eq⟩
      rw [RoomEntry.admitted_of_whole read] at get?_eq
      refine ⟨found.1, found.2, roster, read, rfl, rfl, ?_, get?_eq⟩
      simp only [changes, store_eq]
      exact (Table.get?_insert ..).trans (if_pos rfl)

theorem borneOut_report {report : MemberReport} {index : Nat}
    (published : (memberReport report).published[index]? = some event) (store : Store) :
    (memberReport report).BorneOut self store
      (store.applyAll ((memberReport report).changes self)) index event := by
  simp only [Message.published] at published
  cases told : report.change? with
  | none => simp [told] at published
  | some change =>
      rw [told] at published
      cases List.mem_singleton.mp (List.mem_of_getElem? published)
      refine ⟨change, told, rfl, rfl, rfl, ?_⟩
      intro seat seat_told
      rw [store.member?_applyAll, seat?, if_pos rfl, told, Option.bind_some, seat_told]
      rfl

theorem borneOut_of_published {index : Nat}
    (published : message.published[index]? = some event) (store : Store) :
    message.BorneOut self store (store.applyAll ((message.upTo index).changes self)) index event := by
  cases message with
  | friendList list =>
      by_cases incremental : list.incremental
      · exact borneOut_incremental incremental published store
      · simp only [Message.published, if_neg incremental] at published
        simp only [BorneOut, upTo, if_neg incremental]
        refine ⟨List.mem_singleton.mp (List.mem_of_getElem? published), ?_⟩
        intro id code last
        exact store.lists_applyAll last
  | personaList list => exact borneOut_record published store
  | clanState state =>
      have told : event = .clan state.told := List.mem_singleton.mp (List.mem_of_getElem? published)
      refine ⟨told.trans (congrArg Event.clan state.event_eq_told.symm), rfl, ?_⟩
      intro clan present
      exact store.reflects_apply state present
  | roomEntry entry => exact borneOut_entry published store
  | memberReport report => exact borneOut_report published store
  | _ => rfl

end Message

namespace Session

/-- The law of publication. When a message publishes an event, the session knows exactly what it
knows after the message up to the part that the event is about, so that a subscriber who looks finds
the event borne out. All requests of the message have been handed to the link by then. -/
theorem committed_of_published (session : Session) (message : Message) {done rest : List Effect}
    {event : Event}
    (split : (message.script session.settings session.self).effects =
      done ++ .publish event :: rest) :
    let index := (eventsAmong done).length
    let reached := session.amidst message done
    message.published[index]? = some event ∧
      reached.store = (session.handle (message.upTo index)).2.store ∧
      message.BorneOut session.self session.store reached.store index event ∧
      requestsAmong done = message.requested session.settings session.self ∧
      reached.sent = (session.handle message).2.sent := by
  intro index reached
  rcases Message.done_before split with ⟨published, changes_done, requests_done⟩
  have store_eq : reached.store =
      session.store.applyAll ((message.upTo index).changes session.self) := by
    rw [← changes_done]
    exact foldl_perform_store ..
  have sent_eq : reached.sent = session.sent ++
      if session.link.refusal?.isNone then message.requested session.settings session.self
      else [] := by
    rw [← requests_done]
    exact foldl_perform_sent ..
  refine ⟨published, ?_, ?_, requests_done, ?_⟩
  · rw [store_eq, handle_store]
  · rw [store_eq]
    exact Message.borneOut_of_published published session.store
  · rw [sent_eq, handle_sent, Message.requests_script]

/-- An account is on a list of changes twice, first as a friend and then as nobody. At the first
event it is a friend, though it is not when the list has been dealt with. -/
theorem committed_of_published_of_repeated_friend :
    let friend : AccountId := ⟨0x110000100000002⟩
    let session : Session := { self := ⟨0x110000100000001⟩ }
    let message : Message := .friendList ⟨true, [⟨friend, 3⟩, ⟨friend, 0⟩]⟩
    let done : List Effect := [.note .dispatching, .change (.addFriend (.new friend 3))]
    let rest : List Effect :=
      [.change (.removeFriend friend), .publish (.friendRelation friend (.known .none))]
    (message.script session.settings session.self).effects =
        done ++ .publish (.friendRelation friend (.known .friend)) :: rest ∧
      (session.amidst message done).store.friends.contains friend ∧
      (session.handle message).2.store.friends.contains friend = false := by
  intro friend session message done rest
  have split : (message.script session.settings session.self).effects =
      done ++ .publish (.friendRelation friend (.known .friend)) :: rest := by decide
  obtain ⟨_, _, ⟨entry, _, _, agrees⟩, _⟩ := committed_of_published session message split
  exact ⟨split, agrees.mpr (by decide), by decide⟩

end Session

end Presence
