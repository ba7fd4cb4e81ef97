import Mathlib.Data.List.Induction
import Presence.Proofs.Avatar
import Presence.Proofs.Latest
import Presence.Proofs.Registry
import Presence.Proofs.Session.Changes

/-!
# News about people and clans

Friend lists, persona lists and clan states are sequences of pieces of news, each about one account,
and what a session knows about an account follows from the history of all news. A relation stands
from the first entry that lists the account after the last entry that ended the relation; everything
else that is known was told since then, `foldl_follow`.
-/

namespace Presence

/-- A persona record with the fields that mean something in it. -/
structure Sighting where
  fields : FlagSet PersonaField
  record : PersonaRecord

/-- A name and the digest of an avatar, with the fields that mean something. -/
structure Identity where
  fields : FlagSet PersonaField
  name : String
  digest : List UInt8

namespace Identity

/-- The name that is told, if one is told. -/
def name? (identity : Identity) : Option String :=
  if identity.fields.has .playerName ∧ identity.name ≠ "" then some identity.name else none

/-- The fingerprint of the avatar that is told, if one is told. -/
def avatar? (identity : Identity) : Option String :=
  if identity.fields.has .presence ∧ identity.digest.length = 20 ∧
      ∃ byte ∈ identity.digest, byte ≠ 0 then
    some (Avatar.fingerprint identity.digest)
  else none

theorem nameToSet?_eq (identity : Identity) :
    nameToSet? identity.fields identity.name = identity.name? := by
  simp only [nameToSet?, name?, Bool.and_eq_true, Bool.not_eq_true', ← Bool.not_eq_true,
    String.isEmpty_iff, ne_eq]

theorem avatarToSet?_eq (identity : Identity) :
    avatarToSet? identity.fields (Avatar.fingerprint identity.digest) = identity.avatar? := by
  simp only [avatarToSet?, avatar?, Bool.and_eq_true, Avatar.isPresent_fingerprint]

end Identity

/-- The name and the avatar in a persona record. -/
def Sighting.identity (sighting : Sighting) : Identity where
  fields := sighting.fields
  name := sighting.record.name
  digest := sighting.record.avatarDigest

/-- A piece of news about one account. -/
inductive News where
  /-- The account is on a friend list. -/
  | listed (entry : FriendListEntry)
  /-- The account is on a persona list. -/
  | sighted (sighting : Sighting)
  /-- The state of a clan is told. -/
  | stated (state : ClanState)

/-- The news in a message, in order. -/
def Message.news : Message → List News
  | .friendList list => list.entries.map .listed
  | .personaList list => list.records.map fun record => .sighted { fields := list.fields, record }
  | .clanState state => [.stated state]
  | _ => []

namespace News

/-- The code of the relation to an account, if the news is an entry of a friend list about it. -/
def listed? (id : AccountId) : News → Option UInt32
  | .listed entry => if entry.id = id then some entry.relation else none
  | _ => none

/-- The change to the store that a piece of news brings about. -/
def change? (self : AccountId) : News → Option Change
  | .listed entry => some entry.change
  | .sighted sighting => sighting.record.change? self sighting.fields
  | .stated state => some (.editClan state.id state.edits)

/-- What a piece of news makes of a state on which changes act. -/
def act {σ : Type} (self : AccountId) (step : σ → Change → σ) (state : σ) (news : News) : σ :=
  match news.change? self with
  | some change => step state change
  | none => state

/-- What is known about an account after a piece of news about it: an entry with the code zero ends
the relation, any other entry begins one unless there is one already, and further news is worth
something only while there is one. -/
def follow {α : Type} (id : AccountId) (start : UInt32 → α) (edit : News → α → α)
    (known : Option α) (news : News) : Option α :=
  match news.listed? id with
  | some code => if code = 0 then none else some (known.getD (start code))
  | none => known.map (edit news)

end News

theorem Message.changes_eq_news {self : AccountId} {message : Message}
    (not_in_rooms : message.inRooms = false) :
    message.changes self = message.news.filterMap (News.change? self) := by
  cases message with
  | friendList list => simp [changes, news, News.change?, List.filterMap_map, Function.comp_def]
  | personaList list => simp [changes, news, News.change?, List.filterMap_map, Function.comp_def]
  | clanState state => rfl
  | roomEntry entry => cases not_in_rooms
  | memberReport report => cases not_in_rooms
  | _ => rfl

/-- To whatever rooms do not matter for, a message is the news in it. -/
theorem Message.foldl_changes {σ : Type} {step : σ → Change → σ}
    (ignores_rooms : ∀ state, ∀ change : Change, change.inRooms → step state change = state)
    (self : AccountId) (message : Message) (state : σ) :
    (message.changes self).foldl step state = message.news.foldl (News.act self step) state := by
  cases in_rooms : message.inRooms with
  | false =>
      rw [changes_eq_news in_rooms, List.foldl_filterMap]
      congr 1
      funext known news
      simp only [News.act]
      cases news.change? self <;> rfl
  | true =>
      have no_news : message.news = [] := by cases message <;> first | rfl | cases in_rooms
      have all_in_rooms : ∀ change ∈ message.changes self, change.inRooms := by
        intro change change_mem
        rw [inRooms_changes change_mem, in_rooms]
      rw [no_news, List.foldl_nil]
      apply foldl_unmoved
      intro known change change_mem
      exact ignores_rooms known change (all_in_rooms change change_mem)

namespace Session

theorem foldl_run {σ : Type} {step : σ → Change → σ}
    (ignores_rooms : ∀ state, ∀ change : Change, change.inRooms → step state change = state)
    (self : AccountId) (messages : List Message) (state : σ) :
    (messages.flatMap (Message.changes self)).foldl step state =
      (messages.flatMap Message.news).foldl (News.act self step) state := by
  rw [List.foldl_flatMap, List.foldl_flatMap]
  simp only [Message.foldl_changes ignores_rooms]

theorem friends_run (session : Session) (messages : List Message) (id : AccountId) :
    (session.run messages).store.friends.get? id =
      (messages.flatMap Message.news).foldl (News.act session.self (Change.onFriend id))
        (session.store.friends.get? id) := by
  rw [run_store, Store.friends_applyAll]
  exact foldl_run (fun friend change in_rooms => Change.onFriend_of_inRooms in_rooms id friend) ..

theorem clans_run (session : Session) (messages : List Message) (id : AccountId) :
    (session.run messages).store.clans.get? id =
      (messages.flatMap Message.news).foldl (News.act session.self (Change.onClan id))
        (session.store.clans.get? id) := by
  rw [run_store, Store.clans_applyAll]
  exact foldl_run (fun clan change in_rooms => Change.onClan_of_inRooms in_rooms id clan) ..

end Session

/-- The relation to an account that stands at the end of a history began with the entry `opening`:
the earliest one since the last that ended a relation. -/
structure Standing (id : AccountId) (history before : List News) (opening : FriendListEntry)
    (after : List News) : Prop where
  split : history = before ++ .listed opening :: after
  id_eq : opening.id = id
  nonzero : opening.relation ≠ 0
  ended_before : ∀ code, latest? (News.listed? id) before = some code → code = 0
  unended_after : ∀ news ∈ after, news.listed? id ≠ some 0

theorem Standing.extend {id : AccountId} {history before after : List News}
    {opening : FriendListEntry} {news : News} (standing : Standing id history before opening after)
    (not_ended : news.listed? id ≠ some 0) :
    Standing id (history ++ [news]) before opening (after ++ [news]) where
  split := by simp [standing.split]
  id_eq := standing.id_eq
  nonzero := standing.nonzero
  ended_before := standing.ended_before
  unended_after := by
    intro later later_mem
    rcases List.mem_append.mp later_mem with earlier | last
    · exact standing.unended_after later earlier
    · rwa [List.mem_singleton.mp last]

theorem News.listed?_eq_some {id : AccountId} {news : News} {code : UInt32}
    (listed : news.listed? id = some code) :
    ∃ entry : FriendListEntry, news = .listed entry ∧ entry.id = id ∧ entry.relation = code := by
  cases news with
  | listed entry =>
      simp only [News.listed?] at listed
      split at listed
      · next id_eq => exact ⟨entry, rfl, id_eq, Option.some.inj listed⟩
      · cases listed
  | sighted sighting => cases listed
  | stated state => cases listed

/-- A relation stands at the end of a history if the last entry about the account does not end it.
What is known then was told since the entry with which the relation began. -/
theorem foldl_follow {α : Type} {id : AccountId} (start : UInt32 → α) {edit : News → α → α}
    (edit_listed : ∀ entry known, edit (.listed entry) known = known) (history : List News) :
    ((∀ code, latest? (News.listed? id) history = some code → code = 0) ∧
      history.foldl (News.follow id start edit) none = none) ∨
    ((∃ code, latest? (News.listed? id) history = some code ∧ code ≠ 0) ∧
      ∃ before opening after, Standing id history before opening after ∧
        history.foldl (News.follow id start edit) none =
          some (after.foldl (fun known news => edit news known) (start opening.relation))) := by
  -- The latest news decides, so the history is taken apart from its end.
  induction history using List.reverseRecOn with
  | nil => simp
  | append_singleton history news ih =>
      rw [latest?_append, latest?_singleton, List.foldl_append, List.foldl_cons, List.foldl_nil]
      cases listed : news.listed? id with
      | none =>
          have not_ended : news.listed? id ≠ some 0 := by simp [listed]
          simp only [News.follow, listed, Option.none_or]
          rcases ih with ⟨ended, unknown⟩ | ⟨unended, before, opening, after, standing, known⟩
          · exact .inl ⟨ended, by rw [unknown]; rfl⟩
          · refine .inr ⟨unended, before, opening, after ++ [news], standing.extend not_ended, ?_⟩
            rw [known, Option.map_some, List.foldl_append, List.foldl_cons, List.foldl_nil]
      | some code =>
          rcases News.listed?_eq_some listed with ⟨entry, rfl, id_eq, rfl⟩
          simp only [News.follow, listed, Option.some_or]
          by_cases ends : entry.relation = 0
          · refine .inl ⟨?_, if_pos ends⟩
            rintro _ ⟨⟩
            exact ends
          · have not_ended : (News.listed entry).listed? id ≠ some 0 := by
              rw [listed]
              exact fun ended => ends (Option.some.inj ended)
            rw [if_neg ends]
            refine .inr ⟨⟨_, rfl, ends⟩, ?_⟩
            rcases ih with ⟨ended, unknown⟩ | ⟨_, before, opening, after, standing, known⟩
            · exact ⟨history, entry, [], ⟨rfl, id_eq, ends, ended, by simp⟩, by rw [unknown]; rfl⟩
            · refine ⟨before, opening, after ++ [.listed entry], standing.extend not_ended, ?_⟩
              rw [known, Option.getD_some, List.foldl_append, List.foldl_cons, List.foldl_nil,
                edit_listed]

/-- What is known at the end of a history, if anything is. -/
theorem known_of_follow {α : Type} (id : AccountId) (start : UInt32 → α) {edit : News → α → α}
    (edit_listed : ∀ entry known, edit (.listed entry) known = known) (history : List News) :
    let known? := history.foldl (News.follow id start edit) none
    (known?.isSome ↔ ∃ code, latest? (News.listed? id) history = some code ∧ code ≠ 0) ∧
      ∀ known, known? = some known → ∃ before opening after,
        Standing id history before opening after ∧
          known = after.foldl (fun known news => edit news known) (start opening.relation) := by
  intro known?
  rcases foldl_follow start edit_listed history with
    ⟨ended, unknown⟩ | ⟨unended, before, opening, after, standing, known_eq⟩
  · have absent : known? = none := unknown
    rw [absent]
    refine ⟨⟨nofun, ?_⟩, nofun⟩
    rintro ⟨code, last, nonzero⟩
    exact absurd (ended code last) nonzero
  · have present : known? = some _ := known_eq
    rw [present]
    refine ⟨⟨fun _ => unended, fun _ => rfl⟩, ?_⟩
    rintro known ⟨⟩
    exact ⟨before, opening, after, standing, rfl⟩

end Presence
