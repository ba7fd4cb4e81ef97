import Presence.Proofs.People.News

/-!
# What is known about friends

`Session.friends_of_news` says for every account whether it is a friend after a run of messages, and
if so what is known about it, in terms of the news in the run alone.
-/

namespace Presence

/-- The record of a sighting, if it means something in the given field. -/
def Sighting.record? (field : PersonaField) (sighting : Sighting) : Option PersonaRecord :=
  if sighting.fields.has field then some sighting.record else none

/-- The sightings of an account that are worth something to a session logged in as `self`: only
single people other than the local account are kept up to date. -/
def News.sighting? (self id : AccountId) : News → Option Sighting
  | .sighted sighting =>
      if sighting.record.id = id ∧ id ≠ self ∧ id.isIndividual then some sighting else none
  | _ => none

namespace Friend

/-- The friend after some sightings: every field is as in the last sighting that tells it. -/
def informed (friend : Friend) (sightings : List Sighting) : Friend :=
  let present := latest? (Sighting.record? .presence) sightings
  let playing := latest? (Sighting.record? .gameDataBlob) sightings
  { friend with
    name := (latest? (·.identity.name?) sightings).getD friend.name
    avatar := (latest? (·.identity.avatar?) sightings).getD friend.avatar
    status := (present.map fun record => .ofCode record.status).getD friend.status
    traits := (present.map fun record => ⟨record.traits.toBitVec⟩).getD friend.traits
    appId := (playing.map (·.appId)).getD friend.appId
    gameId := (playing.map (·.gameId)).getD friend.gameId
    gameName := (playing.map (·.gameName)).getD friend.gameName }

theorem informed_append (friend : Friend) (first second : List Sighting) :
    friend.informed (first ++ second) = (friend.informed first).informed second := by
  simp only [informed, latest?_append, Option.map_or, Option.getD_or]

/-- A friend is edited as one sighting tells. -/
theorem editAll_friendEdits (friend : Friend) (sighting : Sighting) :
    friend.editAll (sighting.record.friendEdits sighting.fields) = friend.informed [sighting] := by
  have name_eq : nameToSet? sighting.fields sighting.record.name = sighting.identity.name? :=
    sighting.identity.nameToSet?_eq
  have avatar_eq : avatarToSet? sighting.fields sighting.record.avatar =
      sighting.identity.avatar? := sighting.identity.avatarToSet?_eq
  simp only [PersonaRecord.friendEdits, name_eq, avatar_eq, informed, latest?_singleton,
    Sighting.record?]
  generalize sighting.identity.name? = name
  generalize sighting.identity.avatar? = avatar
  by_cases present : sighting.fields.has .presence <;>
    by_cases playing : sighting.fields.has .gameDataBlob <;>
    cases name <;> cases avatar <;> simp [present, playing, editAll, edit]

theorem foldl_informed (friend : Friend) (sightings : List Sighting) :
    sightings.foldl (fun friend sighting =>
        friend.editAll (sighting.record.friendEdits sighting.fields)) friend =
      friend.informed sightings := by
  induction sightings generalizing friend with
  | nil => rfl
  | cons sighting rest ih =>
      rw [List.foldl_cons, ih, editAll_friendEdits, ← informed_append, List.singleton_append]

/-- A friend of whom only the relation is known. -/
def new (id : AccountId) (code : UInt32) : Friend where
  id
  relation := .ofCode code

end Friend

namespace News

/-- What a piece of news tells about a friend. -/
def editFriend (self id : AccountId) (news : News) (friend : Friend) : Friend :=
  match news.sighting? self id with
  | some sighting => friend.editAll (sighting.record.friendEdits sighting.fields)
  | none => friend

theorem editFriend_of_none {self id : AccountId} {news : News}
    (untold : news.sighting? self id = none) : editFriend self id news = fun friend => friend := by
  funext friend
  simp only [editFriend, untold]

theorem editFriend_of_some {self id : AccountId} {news : News} {sighting : Sighting}
    (told : news.sighting? self id = some sighting) :
    editFriend self id news = fun friend =>
      friend.editAll (sighting.record.friendEdits sighting.fields) := by
  funext friend
  simp only [editFriend, told]

theorem foldl_editFriend (self id : AccountId) (friend : Friend) (history : List News) :
    history.foldl (fun friend news => editFriend self id news friend) friend =
      friend.informed (history.filterMap (sighting? self id)) := by
  rw [← Friend.foldl_informed, List.foldl_filterMap]
  congr 1
  funext friend news
  simp only [editFriend]
  cases news.sighting? self id <;> rfl

theorem onFriend_listed_of_ne {id : AccountId} {entry : FriendListEntry} (id_ne : entry.id ≠ id)
    (friend : Option Friend) : entry.change.onFriend id friend = friend := by
  simp only [FriendListEntry.change]
  split <;> split <;> simp [Change.onFriend, id_ne]

theorem onFriend_listed {id : AccountId} (not_clan : id.isClan = false)
    (friend : Option Friend) (entry : FriendListEntry) :
    entry.change.onFriend id friend =
      if entry.id = id then
        if entry.relation = 0 then none else some (friend.getD (.new id entry.relation))
      else friend := by
  by_cases id_eq : entry.id = id
  · subst id_eq
    have none_code : Registry.code FriendRelation.none = 0 := rfl
    simp only [FriendListEntry.change, not_clan, Bool.false_eq_true, if_false, if_true,
      Wire.ofCode_eq_known_iff, none_code]
    by_cases ends : entry.relation = 0
    · rw [if_pos ends, if_pos ends]
      simp [Change.onFriend]
    · rw [if_neg ends, if_neg ends]
      simp [Change.onFriend, Friend.new]
  · rw [if_neg id_eq, onFriend_listed_of_ne id_eq]

theorem onFriend_sighted (self id : AccountId) (friend : Option Friend) (sighting : Sighting) :
    act self (Change.onFriend id) friend (.sighted sighting) =
      friend.map (editFriend self id (.sighted sighting)) := by
  by_cases counts : sighting.record.id = id ∧ id ≠ self ∧ id.isIndividual
  · rcases counts with ⟨rfl, not_self, individual⟩
    have told : (sighted sighting).sighting? self sighting.record.id = some sighting :=
      if_pos ⟨rfl, not_self, individual⟩
    rw [editFriend_of_some told]
    simp [act, change?, PersonaRecord.change?_of_individual not_self individual, Change.onFriend]
  · have untold : (sighted sighting).sighting? self id = none := if_neg counts
    rw [editFriend_of_none untold, Option.map_id']
    by_cases is_self : sighting.record.id = self
    · simp [act, change?, PersonaRecord.change?, is_self, Change.onFriend]
    · by_cases individual : sighting.record.id.isIndividual
      · have id_ne : sighting.record.id ≠ id := fun id_eq =>
          counts ⟨id_eq, id_eq ▸ is_self, id_eq ▸ individual⟩
        simp [act, change?, PersonaRecord.change?_of_individual is_self individual, id_ne,
          Change.onFriend]
      · cases clan : sighting.record.id.isClan <;>
          simp [act, change?, PersonaRecord.change?, is_self, individual, clan, Change.onFriend]

theorem onFriend_eq_follow {id : AccountId} (not_clan : id.isClan = false) (self : AccountId)
    (friend : Option Friend) (news : News) :
    news.act self (Change.onFriend id) friend =
      follow id (Friend.new id) (editFriend self id) friend news := by
  cases news with
  | listed entry =>
      have untold : (listed entry).sighting? self id = none := rfl
      simp only [act, change?, onFriend_listed not_clan, follow, listed?, editFriend_of_none untold]
      by_cases id_eq : entry.id = id <;> simp [id_eq]
  | sighted sighting => exact onFriend_sighted self id friend sighting
  | stated state =>
      have untold : (stated state).sighting? self id = none := rfl
      simp [act, change?, follow, listed?, Change.onFriend, editFriend_of_none untold]

theorem onFriend_of_clan {id : AccountId} (clan : id.isClan) (self : AccountId) (news : News) :
    news.act self (Change.onFriend id) none = none := by
  cases news with
  | listed entry =>
      by_cases id_eq : entry.id = id
      · subst id_eq
        simp only [act, change?, FriendListEntry.change, clan, if_true]
        split <;> rfl
      · exact onFriend_listed_of_ne id_eq none
  | sighted sighting => rw [onFriend_sighted, Option.map_none]
  | stated state => rfl

end News

namespace Session

/-- The law of friends. Clans are never friends. Anybody else is a friend after a run of messages if
the last entry about the account has another code than zero. What is known about a friend is then
the relation in the entry with which it began, and what the sightings since then have told. -/
theorem friends_of_news (session : Session) (messages : List Message) (id : AccountId) :
    let history := messages.flatMap Message.news
    let friend? := (session.afresh.run messages).store.friends.get? id
    (friend?.isSome ↔ id.isClan = false ∧
        ∃ code, latest? (News.listed? id) history = some code ∧ code ≠ 0) ∧
      ∀ friend, friend? = some friend → ∃ before opening after,
        Standing id history before opening after ∧
          friend = (Friend.new id opening.relation).informed
            (after.filterMap (News.sighting? session.self id)) := by
  intro history friend?
  have friend?_eq : friend? =
      history.foldl (News.act session.self (Change.onFriend id)) none := friends_run ..
  rw [friend?_eq]
  cases clan : id.isClan with
  | true =>
      rw [List.foldl_fixed' (News.onFriend_of_clan clan session.self)]
      simp
  | false =>
      have follow_eq : News.act session.self (Change.onFriend id) =
          News.follow id (Friend.new id) (News.editFriend session.self id) := by
        funext friend news
        exact News.onFriend_eq_follow clan session.self friend news
      have edit_listed : ∀ entry friend,
          News.editFriend session.self id (.listed entry) friend = friend := fun _ _ => rfl
      have told_since (code : UInt32) (after : List News) :=
        News.foldl_editFriend session.self id (Friend.new id code) after
      rcases known_of_follow id (Friend.new id) edit_listed history with
        ⟨present_iff, known_since⟩
      rw [follow_eq]
      refine ⟨by simpa using present_iff, ?_⟩
      intro friend present
      rcases known_since friend present with ⟨before, opening, after, standing, friend_eq⟩
      exact ⟨before, opening, after, standing,
        friend_eq.trans (told_since opening.relation after)⟩

end Session

end Presence
