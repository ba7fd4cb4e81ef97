import Presence.Proofs.People.News

/-!
# What is known about clans

`Session.clans_of_news` is for clans what `Session.friends_of_news` is for people. The name and the
avatar of a clan come from two kinds of messages, persona lists and clan states, and it does not
matter from which.
-/

namespace Presence

/-- The name and the avatar that a clan state tells, if it tells them. -/
def ClanState.identity? (state : ClanState) : Option Identity :=
  state.name.map fun told =>
    { fields := state.fields, name := told.name, digest := told.avatarDigest }

namespace News

/-- The name and the avatar that a piece of news tells about a clan to a session logged in as
`self`. -/
def identity? (self id : AccountId) : News → Option Identity
  | .listed _ => none
  | .sighted sighting =>
      if sighting.record.id = id ∧ id ≠ self then some sighting.identity else none
  | .stated state => if state.id = id then state.identity? else none

/-- The numbers of members that a piece of news tells about a clan. -/
def counts? (id : AccountId) : News → Option ClanCounts
  | .stated state => if state.id = id then state.counts else none
  | _ => none

/-- Whether a piece of news is about a clan, for a session logged in as `self`. -/
def concerns (self id : AccountId) : News → Bool
  | .listed entry => entry.id = id
  | .sighted sighting => sighting.record.id = id ∧ id ≠ self
  | .stated state => state.id = id

end News

namespace Clan

/-- A clan of which only the relation is known. -/
def new (id : AccountId) (code : UInt32) : Clan where
  id
  relation := .ofCode code

/-- The clan after some news: the name and the avatar are those told last, and so are the numbers of
members, which are told together. -/
def informed (clan : Clan) (self : AccountId) (news : List News) : Clan :=
  let identities := news.filterMap (News.identity? self clan.id)
  let counts := latest? (News.counts? clan.id) news
  { clan with
    name := (latest? Identity.name? identities).getD clan.name
    avatar := (latest? Identity.avatar? identities).getD clan.avatar
    total := (counts.map (·.total)).getD clan.total
    online := (counts.map (·.online)).getD clan.online
    chatting := (counts.map (·.chatting)).getD clan.chatting
    inGame := (counts.map (·.inGame)).getD clan.inGame }

theorem informed_append (clan : Clan) (self : AccountId) (first second : List News) :
    clan.informed self (first ++ second) = (clan.informed self first).informed self second := by
  simp only [informed, List.filterMap_append, latest?_append, Option.map_or, Option.getD_or]

theorem editAll_append (clan : Clan) (first second : List Edit) :
    clan.editAll (first ++ second) = (clan.editAll first).editAll second := List.foldl_append

theorem editAll_identity (clan : Clan) (identity : Identity) :
    clan.editAll (clanIdentityEdits identity.fields identity.name
        (Avatar.fingerprint identity.digest)) =
      { clan with
        name := identity.name?.getD clan.name
        avatar := identity.avatar?.getD clan.avatar } := by
  rw [clanIdentityEdits, identity.nameToSet?_eq, identity.avatarToSet?_eq]
  cases identity.name? <;> cases identity.avatar? <;> rfl

end Clan

/-- A state that tells no name edits nothing but the numbers. -/
theorem ClanState.editAll_edits (clan : Clan) (state : ClanState) :
    clan.editAll state.edits =
      { clan with
        name := (state.identity?.bind Identity.name?).getD clan.name
        avatar := (state.identity?.bind Identity.avatar?).getD clan.avatar
        total := (state.counts.map (·.total)).getD clan.total
        online := (state.counts.map (·.online)).getD clan.online
        chatting := (state.counts.map (·.chatting)).getD clan.chatting
        inGame := (state.counts.map (·.inGame)).getD clan.inGame } := by
  rw [ClanState.edits, Clan.editAll_append]
  have identity_edits : clan.editAll
      (clanIdentityEdits state.fields state.nameText state.avatar) =
        { clan with
          name := (state.identity?.bind Identity.name?).getD clan.name
          avatar := (state.identity?.bind Identity.avatar?).getD clan.avatar } := by
    cases told : state.name with
    | none =>
        -- Such a state is taken up with an empty name and an empty fingerprint.
        have nothing : clanIdentityEdits state.fields "" "" = [] := by
          simp [clanIdentityEdits, nameToSet?, avatarToSet?, Avatar.isPresent,
            Avatar.fingerprintLength]
        simp only [ClanState.nameText, ClanState.avatar, ClanState.identity?, told, nothing]
        rfl
    | some name =>
        simp only [ClanState.nameText, ClanState.avatar, ClanState.identity?, told]
        exact clan.editAll_identity
          { fields := state.fields, name := name.name, digest := name.avatarDigest }
  rw [identity_edits]
  cases state.counts <;> rfl

namespace News

/-- What a piece of news tells about a clan. -/
def editClan (self id : AccountId) (news : News) (clan : Clan) : Clan :=
  match news with
  | .listed _ => clan
  | .sighted sighting =>
      if sighting.record.id = id ∧ id ≠ self then
        clan.editAll (clanIdentityEdits sighting.fields sighting.record.name sighting.record.avatar)
      else clan
  | .stated state => if state.id = id then clan.editAll state.edits else clan

theorem editClan_eq_informed (self : AccountId) (news : News) (clan : Clan) :
    news.editClan self clan.id clan = clan.informed self [news] := by
  cases news with
  | listed entry => rfl
  | sighted sighting =>
      by_cases counts : sighting.record.id = clan.id ∧ clan.id ≠ self
      · have told : (sighted sighting).identity? self clan.id = some sighting.identity :=
          if_pos counts
        have edits := clan.editAll_identity sighting.identity
        simp only [editClan, if_pos counts, Clan.informed, List.filterMap_cons_some told,
          List.filterMap_nil, latest?_singleton, counts?]
        exact edits
      · simp [editClan, Clan.informed, identity?, counts?, counts]
  | stated state =>
      by_cases id_eq : state.id = clan.id
      · have told : (stated state).identity? self clan.id = state.identity? := if_pos id_eq
        simp only [editClan, if_pos id_eq, state.editAll_edits, Clan.informed, latest?_singleton,
          counts?]
        cases identity : state.identity? with
        | none => simp [told, identity]
        | some identity => simp [told, identity, latest?_singleton]
      · simp [editClan, Clan.informed, identity?, counts?, id_eq]

theorem foldl_editClan (self : AccountId) (clan : Clan) (history : List News) :
    history.foldl (fun known news => editClan self clan.id news known) clan =
      clan.informed self history := by
  induction history using List.reverseRecOn with
  | nil => rfl
  | append_singleton history news ih =>
      rw [List.foldl_append, ih, List.foldl_cons, List.foldl_nil, Clan.informed_append]
      exact editClan_eq_informed self news (clan.informed self history)

theorem onClan_listed_of_ne {id : AccountId} {entry : FriendListEntry} (id_ne : entry.id ≠ id)
    (clan : Option Clan) : entry.change.onClan id clan = clan := by
  simp only [FriendListEntry.change]
  split <;> split <;> simp [Change.onClan, id_ne]

theorem onClan_listed {id : AccountId} (is_clan : id.isClan) (clan : Option Clan)
    (entry : FriendListEntry) :
    entry.change.onClan id clan =
      if entry.id = id then
        if entry.relation = 0 then none else some (clan.getD (.new id entry.relation))
      else clan := by
  by_cases id_eq : entry.id = id
  · subst id_eq
    have none_code : Registry.code ClanRelation.none = 0 := rfl
    simp only [FriendListEntry.change, is_clan, if_true, Wire.ofCode_eq_known_iff, none_code]
    by_cases ends : entry.relation = 0
    · rw [if_pos ends, if_pos ends]
      simp [Change.onClan]
    · rw [if_neg ends, if_neg ends]
      simp [Change.onClan, Clan.new]
  · rw [if_neg id_eq, onClan_listed_of_ne id_eq]

theorem onClan_sighted (self id : AccountId) (clan : Option Clan) (sighting : Sighting) :
    act self (Change.onClan id) clan (.sighted sighting) =
      if sighting.record.id = id ∧ id ≠ self ∧ id.isClan then
        clan.map (·.editAll (clanIdentityEdits sighting.fields sighting.record.name
          sighting.record.avatar))
      else clan := by
  by_cases is_self : sighting.record.id = self
  · have own : ¬ (sighting.record.id = id ∧ id ≠ self ∧ id.isClan) := by
      rintro ⟨rfl, not_self, -⟩
      exact not_self is_self
    rw [if_neg own]
    simp [act, change?, PersonaRecord.change?, is_self, Change.onClan]
  · cases is_clan : sighting.record.id.isClan with
    | true =>
        simp only [act, change?, PersonaRecord.change?_of_clan is_self is_clan, Change.onClan]
        by_cases id_eq : sighting.record.id = id
        · subst id_eq
          rw [if_pos rfl, if_pos ⟨rfl, is_self, is_clan⟩]
        · rw [if_neg id_eq, if_neg fun about => id_eq about.1]
    | false =>
        have no_clan : ¬ (sighting.record.id = id ∧ id ≠ self ∧ id.isClan) := by
          rintro ⟨rfl, -, clan⟩
          exact absurd clan (Bool.eq_false_iff.mp is_clan)
        rw [if_neg no_clan]
        simp only [act, change?, PersonaRecord.change?, is_self, is_clan, Bool.false_eq_true,
          if_false]
        cases sighting.record.id.isIndividual <;> rfl

theorem onClan_stated (self id : AccountId) (clan : Option Clan) (state : ClanState) :
    act self (Change.onClan id) clan (.stated state) =
      if state.id = id then clan.map (·.editAll state.edits) else clan := rfl

theorem onClan_eq_follow {id : AccountId} (is_clan : id.isClan) (self : AccountId)
    (clan : Option Clan) (news : News) :
    news.act self (Change.onClan id) clan =
      follow id (Clan.new id) (editClan self id) clan news := by
  cases news with
  | listed entry =>
      have edit_eq : editClan self id (.listed entry) = fun clan => clan := rfl
      simp only [act, change?, onClan_listed is_clan, follow, listed?, edit_eq]
      by_cases id_eq : entry.id = id <;> simp [id_eq]
  | sighted sighting =>
      have edit_eq : editClan self id (.sighted sighting) = fun clan =>
          if sighting.record.id = id ∧ id ≠ self then
            clan.editAll (clanIdentityEdits sighting.fields sighting.record.name
              sighting.record.avatar)
          else clan := rfl
      simp only [onClan_sighted, follow, listed?, edit_eq, is_clan, and_true]
      split <;> simp
  | stated state =>
      have edit_eq : editClan self id (.stated state) = fun clan =>
          if state.id = id then clan.editAll state.edits else clan := rfl
      simp only [onClan_stated, follow, listed?, edit_eq]
      split <;> simp

theorem onClan_of_not_clan {id : AccountId} (not_clan : id.isClan = false) (self : AccountId)
    (news : News) : news.act self (Change.onClan id) none = none := by
  cases news with
  | listed entry =>
      by_cases id_eq : entry.id = id
      · subst id_eq
        simp only [act, change?, FriendListEntry.change, not_clan, Bool.false_eq_true, if_false]
        split <;> rfl
      · exact onClan_listed_of_ne id_eq none
  | sighted sighting => rw [onClan_sighted, Option.map_none, ite_self]
  | stated state => rw [onClan_stated, Option.map_none, ite_self]

/-- News that does not concern a clan leaves it as it is. -/
theorem onClan_of_unconcerned {self id : AccountId} {news : News}
    (unconcerned : news.concerns self id = false) (clan : Option Clan) :
    news.act self (Change.onClan id) clan = clan := by
  cases news with
  | listed entry => exact onClan_listed_of_ne (of_decide_eq_false unconcerned) clan
  | sighted sighting =>
      have elsewhere : ¬ (sighting.record.id = id ∧ id ≠ self) := of_decide_eq_false unconcerned
      rw [onClan_sighted, if_neg fun about => elsewhere ⟨about.1, about.2.1⟩]
  | stated state => rw [onClan_stated, if_neg (of_decide_eq_false unconcerned)]

end News

namespace Session

/-- The law of clans. Only clans are ever among the clans, and a clan is one of them after a run of
messages if the last entry about it has another code than zero. What is known about it is then the
relation in the entry with which it began, and what personas and states since then have told. A
message with no news that concerns a clan does not change it, in any session. -/
theorem clans_of_news (session : Session) (messages : List Message) (id : AccountId) :
    let history := messages.flatMap Message.news
    let clan? := (session.afresh.run messages).store.clans.get? id
    (clan?.isSome ↔ id.isClan ∧
        ∃ code, latest? (News.listed? id) history = some code ∧ code ≠ 0) ∧
      (∀ clan, clan? = some clan → ∃ before opening after,
        Standing id history before opening after ∧
          clan = (Clan.new id opening.relation).informed session.self after) ∧
      ∀ (known : Session) (message : Message),
        (∀ news ∈ message.news, news.concerns known.self id = false) →
          (known.handle message).2.store.clans.get? id = known.store.clans.get? id := by
  intro history clan?
  have clan?_eq : clan? =
      history.foldl (News.act session.self (Change.onClan id)) none := clans_run ..
  rw [← and_assoc]
  refine ⟨?_, ?_⟩
  · rw [clan?_eq]
    cases is_clan : id.isClan with
    | false =>
        rw [List.foldl_fixed' (News.onClan_of_not_clan is_clan session.self)]
        simp
    | true =>
        have follow_eq : News.act session.self (Change.onClan id) =
            News.follow id (Clan.new id) (News.editClan session.self id) := by
          funext clan news
          exact News.onClan_eq_follow is_clan session.self clan news
        have edit_listed : ∀ entry clan,
            News.editClan session.self id (.listed entry) clan = clan := fun _ _ => rfl
        have told_since (code : UInt32) (after : List News) :=
          News.foldl_editClan session.self (Clan.new id code) after
        rcases known_of_follow id (Clan.new id) edit_listed history with
          ⟨present_iff, known_since⟩
        rw [follow_eq]
        refine ⟨by simpa using present_iff, ?_⟩
        intro clan present
        rcases known_since clan present with ⟨before, opening, after, standing, clan_eq⟩
        exact ⟨before, opening, after, standing, clan_eq.trans (told_since opening.relation after)⟩
  · intro known message unconcerned
    rw [handle_store, Store.clans_applyAll,
      message.foldl_changes (fun clan change in_rooms => Change.onClan_of_inRooms in_rooms id clan)]
    apply foldl_unmoved
    intro clan news news_mem
    exact News.onClan_of_unconcerned (unconcerned news news_mem) clan

end Session

end Presence
