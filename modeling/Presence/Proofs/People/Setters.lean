import Presence.Proofs.People.Clans
import Presence.Proofs.Store.Fields

/-!
# Records and setters

What a persona list or a clan state tells about an account can also be set from outside, one field
at a time. `Session.handle_record` says which fields have to be set, and in which order, to come to
the same store. Nobody enters the store in either way.
-/

namespace Presence

/-! ### What messages set -/

/-- What a name and an avatar set for a clan. -/
def Identity.clanSetters (identity : Identity) : List Clan.Edit :=
  (if identity.fields.has .playerName ∧ identity.name ≠ "" then [.name identity.name] else []) ++
    if identity.fields.has .presence ∧ identity.digest.length = 20 ∧
        ∃ byte ∈ identity.digest, byte ≠ 0 then
      [.avatar (Avatar.fingerprint identity.digest)]
    else []

/-- What a sighting sets for a friend. -/
def Sighting.friendSetters (sighting : Sighting) : List Friend.Edit :=
  let ⟨fields, record⟩ := sighting
  (if fields.has .playerName ∧ record.name ≠ "" then [.name record.name] else []) ++
    (if fields.has .presence ∧ record.avatarDigest.length = 20 ∧
        ∃ byte ∈ record.avatarDigest, byte ≠ 0 then
      [.avatar (Avatar.fingerprint record.avatarDigest)]
    else []) ++
    (if fields.has .presence then
      [.status (.ofCode record.status), .traits ⟨record.traits.toBitVec⟩]
    else []) ++
    if fields.has .gameDataBlob then
      [.appId record.appId, .gameId record.gameId, .gameName record.gameName]
    else []

theorem map_toList_ite {α β : Type} (condition : Prop) [Decidable condition] (value : α)
    (change : α → β) : (if condition then some value else none).toList.map change =
      if condition then [change value] else [] := by
  split <;> rfl

theorem Identity.clanIdentityEdits_eq (identity : Identity) :
    clanIdentityEdits identity.fields identity.name (Avatar.fingerprint identity.digest) =
      identity.clanSetters := by
  rw [clanIdentityEdits, nameToSet?_eq, avatarToSet?_eq, name?, avatar?, map_toList_ite,
    map_toList_ite]
  rfl

theorem Sighting.friendEdits_eq (sighting : Sighting) :
    sighting.record.friendEdits sighting.fields = sighting.friendSetters := by
  have name_eq : nameToSet? sighting.fields sighting.record.name = sighting.identity.name? :=
    sighting.identity.nameToSet?_eq
  have avatar_eq : avatarToSet? sighting.fields sighting.record.avatar =
      sighting.identity.avatar? := sighting.identity.avatarToSet?_eq
  rw [PersonaRecord.friendEdits, name_eq, avatar_eq, Identity.name?, Identity.avatar?,
    map_toList_ite, map_toList_ite]
  rfl

/-! ### What a message leaves behind -/

namespace Session

variable (session : Session)

theorem handle_record_store (fields : FlagSet PersonaField) (record : PersonaRecord) :
    (session.handle (.personaList ⟨fields, [record]⟩)).2.store =
      session.store.applyAll (record.change? session.self fields).toList := by
  rw [handle_store, Message.changes]
  cases told : record.change? session.self fields <;> simp [told]

theorem handle_state_store (state : ClanState) :
    (session.handle (.clanState state)).2.store =
      session.store.apply (.editClan state.id state.edits) := handle_store ..

/-- The three ways to tell something about an account agree. A clan learns the same from a record on
a persona list as from a state without numbers, and the numbers in a state are four setters more. A
single person learns from a record what the setters for the fields in it set. Whoever is not in the
store does not enter it. -/
theorem handle_record (fields : FlagSet PersonaField) (record : PersonaRecord)
    (not_self : record.id ≠ session.self) :
    let sighted := (session.handle (.personaList ⟨fields, [record]⟩)).2.store
    let told (state : ClanState) := (session.handle (.clanState state)).2.store
    (∀ state : ClanState, record.id.isClan → state.id = record.id → state.fields = fields →
      state.name = some ⟨record.name, record.avatarDigest⟩ → state.counts = none →
        let identity : Identity := ⟨fields, record.name, record.avatarDigest⟩
        told state = sighted ∧
          sighted = session.store.applyAll
            (identity.clanSetters.map (Change.setClan record.id))) ∧
    (∀ (state : ClanState) (counts : ClanCounts),
      told { state with counts := some counts } =
        (told { state with counts := none }).applyAll
          ([.total counts.total, .online counts.online, .chatting counts.chatting,
            .inGame counts.inGame].map (Change.setClan state.id))) ∧
    (record.id.isIndividual →
      let sighting : Sighting := ⟨fields, record⟩
      sighted = session.store.applyAll
        (sighting.friendSetters.map (Change.setFriend record.id))) ∧
    (∀ state : ClanState, session.store.clans.get? state.id = none → told state = session.store) ∧
    (record.id.isClan → session.store.clans.get? record.id = none → sighted = session.store) ∧
    (record.id.isIndividual → session.store.friends.get? record.id = none →
      sighted = session.store) := by
  intro sighted told
  have sighted_of_clan (is_clan : record.id.isClan) : sighted = session.store.apply
      (.editClan record.id (clanIdentityEdits fields record.name record.avatar)) := by
    simp only [sighted, handle_record_store, PersonaRecord.change?_of_clan not_self is_clan]
    rfl
  have sighted_of_individual (individual : record.id.isIndividual) : sighted =
      session.store.apply (.editFriend record.id (record.friendEdits fields)) := by
    simp only [sighted, handle_record_store,
      PersonaRecord.change?_of_individual not_self individual]
    rfl
  refine ⟨?_, ?_, ?_, ?_, ?_, ?_⟩
  · intro state is_clan id_eq fields_eq name_eq counts_eq identity
    have edits_eq : state.edits = identity.clanSetters := by
      rw [← identity.clanIdentityEdits_eq, ClanState.edits, ClanState.nameText, ClanState.avatar,
        name_eq, fields_eq, counts_eq]
      exact List.append_nil _
    have told_eq : told state =
        session.store.applyAll (identity.clanSetters.map (Change.setClan record.id)) := by
      rw [← Store.apply_editClan, ← edits_eq, ← id_eq]
      exact session.handle_state_store state
    have sighted_eq : sighted =
        session.store.applyAll (identity.clanSetters.map (Change.setClan record.id)) := by
      rw [sighted_of_clan is_clan, ← Store.apply_editClan, ← identity.clanIdentityEdits_eq]
      rfl
    exact ⟨told_eq.trans sighted_eq.symm, sighted_eq⟩
  · intro state counts
    simp only [told, handle_state_store, ClanState.edits, Store.apply_editClan, List.map_append,
      Store.applyAll_append]
    rfl
  · intro individual sighting
    rw [sighted_of_individual individual, Store.apply_editFriend, ← sighting.friendEdits_eq]
  · intro state absent
    exact (session.handle_state_store state).trans (Store.apply_editClan_of_absent absent _)
  · intro is_clan absent
    exact (sighted_of_clan is_clan).trans (Store.apply_editClan_of_absent absent _)
  · intro individual absent
    exact (sighted_of_individual individual).trans (Store.apply_editFriend_of_absent absent _)

/-- A clan is renamed by a record or by a state; a friend shows an avatar, but a name that is empty
is not taken up. -/
theorem handle_record_of_empty_name :
    let clan : AccountId := ⟨0x170000000000003⟩
    let friend : AccountId := ⟨0x110000100000002⟩
    let session : Session :=
      { self := ⟨0x110000100000001⟩
        store :=
          { clans := Table.insert ∅ clan { id := clan, relation := .known .member }
            friends := Table.insert ∅ friend { id := friend, relation := .known .friend } } }
    let fields : FlagSet PersonaField := .ofList [.playerName, .presence]
    let digest : List UInt8 := List.replicate 20 1
    let renamed : PersonaRecord :=
      { (default : PersonaRecord) with id := clan, name := "a", avatarDigest := digest }
    let state : ClanState :=
      { (default : ClanState) with id := clan, fields, name := some ⟨"a", digest⟩ }
    let shown : PersonaRecord :=
      { (default : PersonaRecord) with id := friend, avatarDigest := digest }
    let reached := (session.handle (.clanState state)).2.store
    renamed.id ≠ session.self ∧ renamed.id.isClan ∧
      reached = (session.handle (.personaList ⟨fields, [renamed]⟩)).2.store ∧
      (reached.clans.get? clan).map (·.name) = some "a" ∧
      shown.id ≠ session.self ∧ shown.id.isIndividual ∧
      (session.handle (.personaList ⟨fields, [shown]⟩)).2.store =
        session.store.applyAll
          ([.avatar (Avatar.fingerprint digest), .status (.known .offline), .traits ∅].map
            (Change.setFriend friend)) := by
  intro clan friend session fields digest renamed state shown reached
  have renamed_elsewhere : renamed.id ≠ session.self := by decide
  have shown_elsewhere : shown.id ≠ session.self := by decide
  have is_clan : renamed.id.isClan := by decide
  have individual : shown.id.isIndividual := by decide
  obtain ⟨agree, -⟩ := session.handle_record fields renamed renamed_elsewhere
  obtain ⟨-, -, sets, -⟩ := session.handle_record fields shown shown_elsewhere
  have setters_eq : Sighting.friendSetters ⟨fields, shown⟩ =
      [.avatar (Avatar.fingerprint digest), .status (.known .offline), .traits ∅] := by decide
  refine ⟨renamed_elsewhere, is_clan, (agree state is_clan rfl rfl rfl rfl).1, by decide,
    shown_elsewhere, individual, ?_⟩
  rw [← setters_eq]
  exact sets individual

end Session

end Presence
