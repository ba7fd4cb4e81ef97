import Presence.Proofs.Session.Changes
import Presence.Proofs.Store.WellFormed
import Presence.Session.Command

/-!
# Sessions that stay in order

Messages change the store soundly whatever they say, `Message.sound_changes`. So do the user's
actions, and so does whoever removes something from the store. The store of every session that can
be reached from a new one is therefore well-formed, `Session.wellFormed_of_reachable`.
-/

namespace Presence

/-! ### What messages bring into the store -/

theorem FriendListEntry.sound_change (entry : FriendListEntry) : entry.change.Sound := by
  rcases entry.change_cases with
    ⟨is_clan, removes | ⟨related, adds⟩⟩ | ⟨not_clan, removes | ⟨related, adds⟩⟩
  · rw [removes]
    trivial
  · rw [adds]
    exact .new is_clan related (Wire.canonical_ofCode entry.relation)
  · rw [removes]
    trivial
  · rw [adds]
    exact .new not_clan related (Wire.canonical_ofCode entry.relation)

/-- An avatar that a message sets is a fingerprint, however long the digest in the message is. -/
theorem isFingerprint_of_avatarToSet? {fields : FlagSet PersonaField} {digest : List UInt8}
    {avatar : String} (told : avatarToSet? fields (Avatar.fingerprint digest) = some avatar) :
    Avatar.IsFingerprint avatar := by
  simp only [avatarToSet?] at told
  split at told
  · next present =>
      cases told
      exact Avatar.isFingerprint_of_isPresent (Bool.and_eq_true_iff.mp present).2
  · cases told

theorem PersonaRecord.sound_personaEdits (record : PersonaRecord) :
    ∀ edit ∈ record.personaEdits, edit.Sound := by
  intro edit edit_mem
  rcases List.mem_append.mp edit_mem with name_mem | avatar_mem
  · split at name_mem
    · cases name_mem
    · rw [List.mem_singleton.mp name_mem]
      trivial
  · split at avatar_mem
    · next present =>
        rw [List.mem_singleton.mp avatar_mem]
        exact Avatar.isFingerprint_of_isPresent present
    · cases avatar_mem

theorem PersonaRecord.sound_friendEdits (fields : FlagSet PersonaField) (record : PersonaRecord) :
    ∀ edit ∈ record.friendEdits fields, edit.Sound := by
  intro edit edit_mem
  simp only [friendEdits, List.mem_append, List.mem_map, Option.mem_toList] at edit_mem
  rcases edit_mem with ((⟨name, _, rfl⟩ | ⟨avatar, told, rfl⟩) | presence_mem) | game_mem
  · trivial
  · exact isFingerprint_of_avatarToSet? told
  · split at presence_mem
    · simp only [List.mem_cons, List.not_mem_nil, or_false] at presence_mem
      rcases presence_mem with rfl | rfl <;> trivial
    · cases presence_mem
  · split at game_mem
    · simp only [List.mem_cons, List.not_mem_nil, or_false] at game_mem
      rcases game_mem with rfl | rfl | rfl <;> trivial
    · cases game_mem

theorem sound_clanIdentityEdits (fields : FlagSet PersonaField) (name : String)
    (digest : List UInt8) :
    ∀ edit ∈ clanIdentityEdits fields name (Avatar.fingerprint digest), edit.Sound := by
  intro edit edit_mem
  simp only [clanIdentityEdits, List.mem_append, List.mem_map, Option.mem_toList] at edit_mem
  rcases edit_mem with ⟨name, _, rfl⟩ | ⟨avatar, told, rfl⟩
  · trivial
  · exact isFingerprint_of_avatarToSet? told

theorem PersonaRecord.sound_change? {self : AccountId} {fields : FlagSet PersonaField}
    {record : PersonaRecord} {change : Change} (told : record.change? self fields = some change) :
    change.Sound := by
  rcases change?_cases told with ⟨_, rfl⟩ | ⟨individual, rfl⟩ | ⟨_, rfl⟩
  · exact record.sound_personaEdits
  · exact ⟨individual, record.sound_friendEdits fields⟩
  · exact sound_clanIdentityEdits fields record.name record.avatarDigest

theorem ClanState.sound_edits (state : ClanState) : ∀ edit ∈ state.edits, edit.Sound := by
  -- A state that tells no avatar has the fingerprint of the empty digest.
  have ⟨digest, avatar_eq⟩ : ∃ digest, state.avatar = Avatar.fingerprint digest := by
    simp only [ClanState.avatar]
    split
    · exact ⟨_, rfl⟩
    · exact ⟨[], rfl⟩
  intro edit edit_mem
  rw [edits, avatar_eq] at edit_mem
  rcases List.mem_append.mp edit_mem with identity_mem | count_mem
  · exact sound_clanIdentityEdits state.fields state.nameText digest edit identity_mem
  · split at count_mem
    · simp only [countEdits, List.mem_cons, List.not_mem_nil, or_false] at count_mem
      rcases count_mem with rfl | rfl | rfl | rfl <;> trivial
    · cases count_mem

/-- Whatever a message says, its changes are sound. -/
theorem Message.sound_changes {self : AccountId} {message : Message} {change : Change}
    (change_mem : change ∈ message.changes self) : change.Sound := by
  cases in_rooms : message.inRooms with
  | true =>
      rcases mem_changes change_mem in_rooms with ⟨_, _, rfl⟩ | ⟨_, _, rfl⟩ | ⟨_, _, rfl⟩ <;>
        trivial
  | false =>
      cases message with
      | friendList list =>
          rcases List.mem_map.mp change_mem with ⟨entry, _, rfl⟩
          exact entry.sound_change
      | personaList list =>
          rcases List.mem_filterMap.mp change_mem with ⟨record, _, told⟩
          exact PersonaRecord.sound_change? told
      | clanState state =>
          rw [List.mem_singleton.mp change_mem]
          exact state.sound_edits
      | roomEntry entry => cases in_rooms
      | memberReport report => cases in_rooms
      | _ => cases change_mem

theorem Message.sound_script (settings : SessionSettings) (self : AccountId) (message : Message) :
    ∀ change ∈ Script.changesAmong (message.script settings self).effects, change.Sound := by
  intro change change_mem
  have changes_eq : Script.changesAmong (message.script settings self).effects =
      message.changes self := message.changes_script settings self
  rw [changes_eq] at change_mem
  exact sound_changes change_mem

/-! ### What else changes the store -/

/-- An action sets the name or the availability, but never the avatar. -/
theorem Action.sound_personaEdits (action : Action) : ∀ edit ∈ action.personaEdits, edit.Sound := by
  intro edit edit_mem
  cases action with
  | setName name =>
      rw [List.mem_singleton.mp edit_mem]
      trivial
  | setStatus status =>
      rw [List.mem_singleton.mp edit_mem]
      trivial
  | _ => cases edit_mem

/-- Whether a change removes an entry from one of the tables. -/
def Change.removes : Change → Bool
  | .removeFriend _ | .removeClan _ | .removeRoom _ => true
  | _ => false

theorem Change.sound_of_removes {change : Change} (removes : change.removes) : change.Sound := by
  cases change with
  | removeFriend id => trivial
  | removeClan id => trivial
  | removeRoom id => trivial
  | _ => cases removes

/-- Whether a command leaves it to messages and actions what comes into the store: whoever changes
the store directly only removes something. -/
def Command.addsNothing : Command → Bool
  | .amend change => change.removes
  | _ => true

namespace Session

/-- The sessions that can be reached from a new one. -/
inductive Reachable : Session → Prop where
  | afresh (session : Session) : Reachable session.afresh
  | execute {session : Session} (reachable : Reachable session) {command : Command}
      (adds_nothing : command.addsNothing) : Reachable (session.execute command).2

theorem act_store (session : Session) (action : Action) :
    (session.act action).2.store = session.store.apply (.editPersona action.personaEdits) := by
  simp only [act]
  split
  · rfl
  · simp only [send]
    split <;> rfl

theorem wellFormed_foldl_perform (spans : List LogSpan) {session : Session}
    (wf : session.store.WellFormed) {effects : List Effect}
    (sound : ∀ change ∈ Script.changesAmong effects, change.Sound) :
    (effects.foldl (perform spans) session).store.WellFormed := by
  rw [foldl_perform_store]
  exact wf.applyAll sound

theorem wellFormed_executeLive {session : Session} (wf : session.store.WellFormed)
    {command : Command} (adds_nothing : command.addsNothing) :
    (session.executeLive command).2.store.WellFormed := by
  cases command with
  | receive message =>
      exact wellFormed_foldl_perform _ wf (message.sound_script session.settings session.self)
  | act action =>
      have acted : (session.act action).2.store.WellFormed := by
        rw [act_store]
        exact wf.apply action.sound_personaEdits
      exact acted
  | amend change => exact wf.apply (Change.sound_of_removes adds_nothing)
  | _ => exact wf

/-- A command is executed, unless the session is over. -/
theorem execute_cases {κ : Type} [Channel κ] [LawfulChannel κ] (session : Session κ)
    (command : Command) :
    (session.execute command).2 = session ∨
      (session.execute command).2 = (session.executeLive command).2 := by
  cases command with
  | receive message | act action | amend change =>
      simp only [execute]
      split
      · exact .inl rfl
      · exact .inr rfl
  | _ => exact .inr rfl

theorem wellFormed_execute {session : Session} (wf : session.store.WellFormed)
    {command : Command} (adds_nothing : command.addsNothing) :
    (session.execute command).2.store.WellFormed := by
  rcases session.execute_cases command with idle | executed
  · rw [idle]
    exact wf
  · rw [executed]
    exact wellFormed_executeLive wf adds_nothing

/-- The store of every session that can be reached from a new one is well-formed, also while the
session is taking in a message, whatever the message says and whether or not it is malformed. -/
theorem wellFormed_of_reachable {session : Session} (reachable : session.Reachable) :
    session.store.WellFormed ∧
      ∀ (message : Message) (done rest : List Effect),
        (message.script session.settings session.self).effects = done ++ rest →
          (done.foldl (perform [dispatchSpan message.kind]) session).store.WellFormed := by
  have wf : session.store.WellFormed := by
    induction reachable with
    | afresh session => exact .new
    | execute reachable adds_nothing ih => exact wellFormed_execute ih adds_nothing
  refine ⟨wf, ?_⟩
  intro message done rest effects_eq
  apply wellFormed_foldl_perform _ wf
  intro change change_mem
  apply message.sound_script session.settings session.self
  rw [effects_eq, Script.changesAmong_append]
  exact List.mem_append_left _ change_mem

/-- A friend shows an avatar to a session that is then logged in as that very account and changes
its name; a clan that was never heard of is removed. -/
theorem wellFormed_of_shown_avatar :
    let friend : AccountId := ⟨0x110000100000005⟩
    let sighting : PersonaRecord :=
      { (default : PersonaRecord) with id := friend, avatarDigest := List.replicate 20 1 }
    let commands : List Command := [
      .receive (.friendList ⟨true, [⟨friend, 3⟩]⟩),
      .receive (.personaList ⟨.ofList [.presence], [sighting]⟩),
      .become friend, .act (.setName "a"), .amend (.removeClan ⟨7⟩)]
    let reached := commands.foldl (fun session command => (session.execute command).2)
      (default : Session).afresh
    reached.Reachable ∧ (reached.store.friends.get? friend).map (·.avatar) = some sighting.avatar ∧
      reached.store.WellFormed := by
  intro friend sighting commands reached
  have reachable : reached.Reachable :=
    .execute (.execute (.execute (.execute (.execute (.afresh default) rfl) rfl) rfl) rfl) rfl
  exact ⟨reachable, by decide, (wellFormed_of_reachable reachable).1⟩

end Session

end Presence
