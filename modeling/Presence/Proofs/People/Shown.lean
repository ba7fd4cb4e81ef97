import Presence.Proofs.People.Clans
import Presence.Proofs.People.Friends

/-!
# What the store shows of a piece of news

Right after an entry of a friend list the account is in the store or not, as the entry says. Right
after a persona or the state of a clan, whoever is in the store shows all that was told.
-/

namespace Presence

/-! ### Entries of friend lists -/

namespace Store

/-- Whether an account is among the clans or the friends, whichever of them are kept for accounts
of its kind. -/
def lists (store : Store) (id : AccountId) : Bool :=
  if id.isClan then store.clans.contains id else store.friends.contains id

/-- Whether the relation that an event tells of is the one that the store keeps. -/
def Agrees (store : Store) : Event → Prop
  | .friendRelation id relation => store.friends.contains id ↔ relation ≠ .known .none
  | .clanRelation id relation => store.clans.contains id ↔ relation ≠ .known .none
  | _ => False

theorem agrees_event_iff (store : Store) (entry : FriendListEntry) :
    store.Agrees entry.event ↔ (store.lists entry.id ↔ entry.relation ≠ 0) := by
  have friend_code : Registry.code FriendRelation.none = 0 := rfl
  have clan_code : Registry.code ClanRelation.none = 0 := rfl
  simp only [FriendListEntry.event, lists]
  split
  · simp only [Agrees, ne_eq, Wire.ofCode_eq_known_iff, clan_code]
  · simp only [Agrees, ne_eq, Wire.ofCode_eq_known_iff, friend_code]

theorem lists_apply (store : Store) (entry : FriendListEntry) (id : AccountId) :
    (store.apply entry.change).lists id =
      ((News.listed? id (.listed entry)).map fun code => decide (code ≠ 0)).getD
        (store.lists id) := by
  simp only [News.listed?]
  cases is_clan : id.isClan with
  | true =>
      simp only [lists, is_clan, if_true, Table.contains, clans_apply, News.onClan_listed is_clan]
      by_cases id_eq : entry.id = id <;> by_cases ends : entry.relation = 0 <;> simp [id_eq, ends]
  | false =>
      simp only [lists, is_clan, Bool.false_eq_true, if_false, Table.contains, friends_apply,
        News.onFriend_listed is_clan]
      by_cases id_eq : entry.id = id <;> by_cases ends : entry.relation = 0 <;> simp [id_eq, ends]

/-- The last entry about an account says whether it is in the store. -/
theorem lists_applyAll (store : Store) {entries : List FriendListEntry} {id : AccountId}
    {code : UInt32} (last : latest? (News.listed? id) (entries.map .listed) = some code) :
    (store.applyAll (entries.map FriendListEntry.change)).lists id ↔ code ≠ 0 := by
  -- The latest entry decides, so the list is taken apart from its end.
  induction entries using List.reverseRecOn with
  | nil => cases last
  | append_singleton front entry ih =>
      rw [List.map_append, latest?_append, List.map_singleton, latest?_singleton] at last
      rw [List.map_append, applyAll_append, List.map_singleton, applyAll_cons, applyAll_nil,
        lists_apply]
      cases told : News.listed? id (.listed entry) with
      | none =>
          rw [told, Option.none_or] at last
          exact ih last
      | some found =>
          rw [told, Option.some_or] at last
          cases last
          simp

end Store

/-! ### Personas -/

/-- A friend shows whatever a sighting tells. -/
structure Friend.Shows (friend : Friend) (sighting : Sighting) : Prop where
  name : ∀ name, sighting.identity.name? = some name → friend.name = name
  avatar : ∀ avatar, sighting.identity.avatar? = some avatar → friend.avatar = avatar
  status : sighting.fields.has .presence → friend.status = .ofCode sighting.record.status
  traits : sighting.fields.has .presence → friend.traits = ⟨sighting.record.traits.toBitVec⟩
  appId : sighting.fields.has .gameDataBlob → friend.appId = sighting.record.appId
  gameId : sighting.fields.has .gameDataBlob → friend.gameId = sighting.record.gameId
  gameName : sighting.fields.has .gameDataBlob → friend.gameName = sighting.record.gameName

/-- A clan bears the name and the avatar that are told. -/
structure Clan.Bears (clan : Clan) (identity : Identity) : Prop where
  name : ∀ name, identity.name? = some name → clan.name = name
  avatar : ∀ avatar, identity.avatar? = some avatar → clan.avatar = avatar

/-- The local persona has the name and the avatar of a record, whichever fields are meant. -/
structure Persona.Resembles (persona : Persona) (record : PersonaRecord) : Prop where
  name : record.name ≠ "" → persona.name = record.name
  avatar : record.avatarDigest.length = 20 → (∃ byte ∈ record.avatarDigest, byte ≠ 0) →
    persona.avatar = Avatar.fingerprint record.avatarDigest

/-- The store of a session logged in as `self` shows whatever a sighting tells of an account, if it
keeps that account. -/
structure Store.Shows (store : Store) (self : AccountId) (sighting : Sighting) : Prop where
  persona : sighting.record.id = self → store.persona.Resembles sighting.record
  friend : sighting.record.id ≠ self → sighting.record.id.isIndividual →
    ∀ friend, store.friends.get? sighting.record.id = some friend → friend.Shows sighting
  clan : sighting.record.id ≠ self → sighting.record.id.isClan →
    ∀ clan, store.clans.get? sighting.record.id = some clan → clan.Bears sighting.identity

theorem Friend.shows_informed (friend : Friend) (sighting : Sighting) :
    (friend.informed [sighting]).Shows sighting where
  name := by
    intro name told
    simp [informed, told]
  avatar := by
    intro avatar told
    simp [informed, told]
  status := by
    intro present
    simp [informed, Sighting.record?, present]
  traits := by
    intro present
    simp [informed, Sighting.record?, present]
  appId := by
    intro playing
    simp [informed, Sighting.record?, playing]
  gameId := by
    intro playing
    simp [informed, Sighting.record?, playing]
  gameName := by
    intro playing
    simp [informed, Sighting.record?, playing]

theorem Clan.bears_editAll (clan : Clan) (identity : Identity) :
    (clan.editAll (clanIdentityEdits identity.fields identity.name
      (Avatar.fingerprint identity.digest))).Bears identity := by
  rw [editAll_identity]
  constructor
  · intro name told
    simp [told]
  · intro avatar told
    simp [told]

theorem Persona.resembles_editAll (persona : Persona) (record : PersonaRecord) :
    (persona.editAll record.personaEdits).Resembles record := by
  simp only [PersonaRecord.personaEdits]
  constructor
  · intro named
    rw [if_neg (by simpa using named)]
    split <;> rfl
  · intro length_eq nonzero
    have valid : Avatar.isPresent record.avatar :=
      (Avatar.isPresent_fingerprint record.avatarDigest).mpr ⟨length_eq, nonzero⟩
    rw [if_pos valid]
    split <;> rfl

/-- Right after a record has been taken up, the store shows what it tells. -/
theorem Store.shows_applyAll (store : Store) (self : AccountId) (sighting : Sighting) :
    (store.applyAll (sighting.record.change? self sighting.fields).toList).Shows self sighting where
  persona := by
    intro is_self
    have told : sighting.record.change? self sighting.fields =
        some (.editPersona sighting.record.personaEdits) := if_pos is_self
    rw [told]
    exact store.persona.resembles_editAll sighting.record
  friend := by
    intro not_self individual friend present
    rw [PersonaRecord.change?_of_individual not_self individual, Option.toList_some, applyAll_cons,
      applyAll_nil, friends_apply] at present
    rcases Option.map_eq_some_iff.mp ((if_pos rfl).symm.trans present) with ⟨before, _, rfl⟩
    rw [Friend.editAll_friendEdits]
    exact before.shows_informed sighting
  clan := by
    intro not_self is_clan clan present
    rw [PersonaRecord.change?_of_clan not_self is_clan, Option.toList_some, applyAll_cons,
      applyAll_nil, clans_apply] at present
    rcases Option.map_eq_some_iff.mp ((if_pos rfl).symm.trans present) with ⟨before, _, rfl⟩
    exact before.bears_editAll sighting.identity

/-! ### The state of a clan -/

/-- A clan shows whatever a state tells. -/
structure Clan.Reflects (clan : Clan) (state : ClanState) : Prop where
  identity : ∀ identity, state.identity? = some identity → clan.Bears identity
  counts : ∀ counts, state.counts = some counts →
    clan.total = counts.total ∧ clan.online = counts.online ∧ clan.chatting = counts.chatting ∧
      clan.inGame = counts.inGame

theorem Clan.reflects_editAll (clan : Clan) (state : ClanState) :
    (clan.editAll state.edits).Reflects state := by
  rw [state.editAll_edits]
  constructor
  · intro identity told
    constructor
    · intro name name_told
      simp [told, name_told]
    · intro avatar avatar_told
      simp [told, avatar_told]
  · intro counts told
    simp [told]

/-- Right after the state of a clan has been taken up, the store shows what it tells. -/
theorem Store.reflects_apply (store : Store) (state : ClanState) {clan : Clan}
    (present : (store.apply (.editClan state.id state.edits)).clans.get? state.id = some clan) :
    clan.Reflects state := by
  rw [clans_apply] at present
  rcases Option.map_eq_some_iff.mp ((if_pos rfl).symm.trans present) with ⟨before, _, rfl⟩
  exact before.reflects_editAll state

end Presence
