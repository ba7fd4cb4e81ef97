import Presence.Proofs.Session.Independence
import Presence.Proofs.Session.Isolation

/-!
# Lists in parts

It makes no difference whether a list of changes to the relations arrives in one message or in
several, or whether a list of personas does. A complete friend list leaves the session knowing what
the same entries would tell it as a list of changes, so whoever is not on it stays; only what is
published and sent differs. Entries about different accounts may stand in any order. All of this is
`Session.lists_in_parts`.
-/

namespace Presence

/-! ### The order of changes -/

/-- Changes that concern different accounts can be made in any order. -/
theorem Store.applyAll_perm (self : AccountId) {first second : List Change}
    (perm : first.Perm second) (distinct : (first.map (Change.account self)).Nodup)
    (store : Store) : store.applyAll first = store.applyAll second := by
  apply perm.foldl_eq'
  intro change change_mem other other_mem store
  -- A change commutes with itself; any other one concerns another account.
  by_cases change_eq : change = other
  · rw [change_eq]
  · have apart : Change.Apart self [change] [other] := by
      simp only [Change.Apart, List.mem_singleton, forall_eq]
      intro account_eq
      exact change_eq (List.inj_on_of_nodup_map distinct change_mem other_mem account_eq)
    exact applyAll_comm_of_apart apart store

theorem FriendListEntry.applyAll_perm {entries others : List FriendListEntry}
    (perm : entries.Perm others) (distinct : (entries.map (·.id)).Nodup) (store : Store) :
    store.applyAll (entries.map change) = store.applyAll (others.map change) := by
  apply Store.applyAll_perm default (perm.map change)
  simpa [Function.comp_def, account_change] using distinct

/-! ### Messages in parts -/

/-- A message says what two others say one after the other. -/
structure Message.Joins (settings : SessionSettings) (account : AccountId)
    (whole first second : Message) : Prop where
  changes_eq : whole.changes account = first.changes account ++ second.changes account
  published_eq : whole.published = first.published ++ second.published
  requested_eq : whole.requested settings account =
    first.requested settings account ++ second.requested settings account

namespace Message

variable (settings : SessionSettings) (account : AccountId)

theorem joins_friendList (front rest : List FriendListEntry) :
    Joins settings account (.friendList ⟨true, front ++ rest⟩) (.friendList ⟨true, front⟩)
      (.friendList ⟨true, rest⟩) where
  changes_eq := List.map_append
  published_eq := List.map_append
  requested_eq := by simp [requested]

theorem joins_personaList (fields : FlagSet PersonaField) (front rest : List PersonaRecord) :
    Joins settings account (.personaList ⟨fields, front ++ rest⟩) (.personaList ⟨fields, front⟩)
      (.personaList ⟨fields, rest⟩) where
  changes_eq := List.filterMap_append
  published_eq := List.map_append
  requested_eq := rfl

end Message

namespace Session

theorem unlogged_handle_of_joins {session : Session} {whole first second : Message}
    (joins : Message.Joins session.settings session.self whole first second) :
    (session.handle whole).2.unlogged =
      ((session.handle first).2.handle second).2.unlogged := by
  apply unlogged_eq
  · simp only [handle_settings]
  · simp only [handle_self]
  · simp only [handle_link]
  · simp only [handle_store, handle_self, joins.changes_eq, Store.applyAll_append]
  · simp only [handle_feed, Message.events_script, joins.published_eq, List.foldl_append]
  · simp only [handle_sent, handle_link, handle_settings, handle_self, Message.requests_script,
      joins.requested_eq, List.append_assoc]
    split <;> simp

/-- The session without anything that it has told the subscriber, the service or the log. -/
def wordless (session : Session) : Session := { session with feed := {}, sent := [], log := [] }

theorem wordless_handle (session : Session) (message : Message) :
    (session.handle message).2.wordless =
      { session.wordless with store := session.store.applyAll (message.changes session.self) } := by
  simp only [wordless, handle_settings, handle_self, handle_link, handle_store]

/-- Whom a friend list does not mention, it leaves alone. -/
theorem entries_of_unlisted (session : Session) {list : FriendList} {id : AccountId}
    (unlisted : id ∉ list.entries.map (·.id)) :
    (session.handle (.friendList list)).2.store.friends.get? id = session.store.friends.get? id ∧
      (session.handle (.friendList list)).2.store.clans.get? id =
        session.store.clans.get? id := by
  have elsewhere (change : Change)
      (change_mem : change ∈ (Message.friendList list).changes session.self) :
      change.account session.self ≠ id := by
    intro account_eq
    exact unlisted (account_eq ▸ Message.account_mem_touched change_mem)
  simp only [handle_store, Store.friends_applyAll, Store.clans_applyAll]
  constructor
  · apply foldl_unmoved
    intro friend change change_mem
    exact Change.onFriend_of_account_ne (elsewhere change change_mem) friend
  · apply foldl_unmoved
    intro clan change change_mem
    exact Change.onClan_of_account_ne (elsewhere change change_mem) clan

/-- The law of lists. A list of changes to the relations may be split anywhere, and so may a list of
personas: but for the log, the session fares as if it had come in one piece. A complete friend list
teaches the session what the same entries would teach it as a list of changes, and those who are not
on it stay as they are; it is published as a whole, and the people on it are asked for in at most
one request. Entries about different accounts may come in any order. -/
theorem lists_in_parts (session : Session) :
    (∀ front rest : List FriendListEntry,
      let whole := session.handle (.friendList ⟨true, front ++ rest⟩)
      let first := session.handle (.friendList ⟨true, front⟩)
      let second := first.2.handle (.friendList ⟨true, rest⟩)
      whole.1 = .ok () ∧ first.1 = .ok () ∧ second.1 = .ok () ∧
        whole.2.unlogged = second.2.unlogged) ∧
    (∀ entries : List FriendListEntry,
      let delta := session.handle (.friendList ⟨true, entries⟩)
      let complete : FriendList := ⟨false, entries⟩
      let snapshot := session.handle (.friendList complete)
      snapshot.1 = delta.1 ∧ snapshot.2.wordless = delta.2.wordless ∧
        (∀ id ∉ entries.map (·.id),
          snapshot.2.store.friends.get? id = session.store.friends.get? id ∧
            snapshot.2.store.clans.get? id = session.store.clans.get? id) ∧
        delta.2.feed = (entries.map FriendListEntry.event).foldl Feed.publish session.feed ∧
        delta.2.sent = session.sent ∧
        snapshot.2.feed = session.feed.publish .friendList ∧
        snapshot.2.sent = session.sent ++
          if session.link.refusal? = none ∧ complete.people ≠ [] then
            [.personas session.settings.friendFields complete.people] else []) ∧
    (∀ (entries others : List FriendListEntry) (incremental otherwise : Bool),
      entries.Perm others → (entries.map (·.id)).Nodup →
        (session.handle (.friendList ⟨incremental, entries⟩)).2.store =
          (session.handle (.friendList ⟨otherwise, others⟩)).2.store) ∧
    ∀ (fields : FlagSet PersonaField) (front rest : List PersonaRecord),
      let whole := session.handle (.personaList ⟨fields, front ++ rest⟩)
      let first := session.handle (.personaList ⟨fields, front⟩)
      let second := first.2.handle (.personaList ⟨fields, rest⟩)
      whole.1 = .ok () ∧ first.1 = .ok () ∧ second.1 = .ok () ∧
        whole.2.unlogged = second.2.unlogged := by
  refine ⟨?_, ?_, ?_, ?_⟩
  · intro front rest whole first second
    refine ⟨handle_answer .., handle_answer .., handle_answer .., ?_⟩
    apply unlogged_handle_of_joins
    exact Message.joins_friendList session.settings session.self front rest
  · intro entries delta complete snapshot
    refine ⟨?_, ?_, ?_, ?_, ?_, ?_, ?_⟩
    · simp only [snapshot, delta, handle_answer, Message.failure?]
    · simp only [snapshot, delta, wordless_handle]
      rfl
    · intro id unlisted
      exact session.entries_of_unlisted unlisted
    · simp only [delta, handle_feed, Message.events_script]
      rfl
    · simp [delta, handle_sent, Message.requests_script, Message.requested]
    · simp only [snapshot, handle_feed, Message.events_script]
      rfl
    · simp only [snapshot, handle_sent, Message.requests_script, Message.requested,
        ← complete.people_eq]
      by_cases accepting : session.link.refusal? = none <;>
        by_cases nobody : complete.people = [] <;> simp [complete, accepting, nobody]
  · intro entries others incremental otherwise perm distinct
    simp only [handle_store]
    exact FriendListEntry.applyAll_perm perm distinct session.store
  · intro fields front rest whole first second
    refine ⟨handle_answer .., handle_answer .., handle_answer .., ?_⟩
    apply unlogged_handle_of_joins
    exact Message.joins_personaList session.settings session.self fields front rest

/-- A friend is taken off the list and a clan is put on it, in either order, and in either kind of
list. -/
theorem lists_in_parts_of_shuffled_list :
    let friend : AccountId := ⟨0x110000100000002⟩
    let clan : AccountId := ⟨0x170000000000003⟩
    let known : Friend := { id := friend, relation := .known .friend }
    let session : Session :=
      { self := ⟨0x110000100000001⟩, store := { friends := Table.insert ∅ friend known } }
    let entries : List FriendListEntry := [⟨friend, 0⟩, ⟨clan, 3⟩]
    let others : List FriendListEntry := [⟨clan, 3⟩, ⟨friend, 0⟩]
    let reached := (session.handle (.friendList ⟨true, entries⟩)).2.store
    entries.Perm others ∧ (entries.map (·.id)).Nodup ∧
      reached = (session.handle (.friendList ⟨false, others⟩)).2.store ∧
      reached.friends.contains friend = false ∧ reached.clans.contains clan := by
  intro friend clan known session entries others reached
  have perm : entries.Perm others := List.Perm.swap ..
  have distinct : (entries.map (·.id)).Nodup := by decide
  obtain ⟨-, -, shuffled, -⟩ := lists_in_parts session
  exact ⟨perm, distinct, shuffled entries others true false perm distinct, by decide, by decide⟩

end Session

end Presence
