import Presence.Avatar
import Presence.Script.Basic

/-!
# Scripts of messages about people and clans

Friend lists decide who is in the store: an entry adds whom it relates to the local account, or
removes whom it no longer relates, and leaves everybody alone who is already there. Persona lists
and clan states then fill in the fields that they say they carry.
-/

namespace Presence

/-- The change that a friend list entry brings about. -/
def FriendListEntry.change (entry : FriendListEntry) : Change :=
  if entry.id.isClan then
    let relation : Wire ClanRelation := .ofCode entry.relation
    if relation = .known .none then .removeClan entry.id
    else .addClan { id := entry.id, relation }
  else
    let relation : Wire FriendRelation := .ofCode entry.relation
    if relation = .known .none then .removeFriend entry.id
    else .addFriend { id := entry.id, relation }

/-- The event that tells of a friend list entry. -/
def FriendListEntry.event (entry : FriendListEntry) : Event :=
  if entry.id.isClan then .clanRelation entry.id (.ofCode entry.relation)
  else .friendRelation entry.id (.ofCode entry.relation)

/-- The people on a friend list. -/
def FriendList.people (list : FriendList) : List AccountId :=
  (list.entries.map (·.id)).filter fun id => !id.isClan

/-- A list of changes is published entry by entry. A complete list is published as a whole, after
asking for the personas of the people on it. -/
def FriendList.script (asked : FlagSet PersonaField) (list : FriendList) : Script where
  effects :=
    if list.incremental then
      list.entries.flatMap fun entry => [.change entry.change, .publish entry.event]
    else
      list.entries.map (fun entry => .change entry.change) ++
        .note .listApplied ::
        (if list.people.isEmpty then [] else [.request (.personas asked list.people)]) ++
        [.publish .friendList]

/-- The new name of a clan or a friend, if the message carries one that is not empty. -/
def nameToSet? (fields : FlagSet PersonaField) (name : String) : Option String :=
  if fields.has .playerName && !name.isEmpty then some name else none

/-- The new avatar of a clan or a friend, if the message carries one. -/
def avatarToSet? (fields : FlagSet PersonaField) (avatar : String) : Option String :=
  if fields.has .presence && Avatar.isPresent avatar then some avatar else none

namespace PersonaRecord

/-- The fingerprint of the avatar. -/
def avatar (record : PersonaRecord) : String := Avatar.fingerprint record.avatarDigest

/-- What the record changes about the local persona; the fields that the message is said to carry do
not matter. -/
def personaEdits (record : PersonaRecord) : List Persona.Edit :=
  (if record.name.isEmpty then [] else [.name record.name]) ++
    if Avatar.isPresent record.avatar then [.avatar record.avatar] else []

/-- What the record changes about a friend. -/
def friendEdits (fields : FlagSet PersonaField) (record : PersonaRecord) : List Friend.Edit :=
  (nameToSet? fields record.name).toList.map .name ++
    (avatarToSet? fields record.avatar).toList.map .avatar ++
    (if fields.has .presence then
      [.status (.ofCode record.status), .traits ⟨record.traits.toBitVec⟩]
    else []) ++
    if fields.has .gameDataBlob then
      [.appId record.appId, .gameId record.gameId, .gameName record.gameName]
    else []

end PersonaRecord

/-- What a name and an avatar change about a clan. -/
def clanIdentityEdits (fields : FlagSet PersonaField) (name avatar : String) : List Clan.Edit :=
  (nameToSet? fields name).toList.map .name ++ (avatarToSet? fields avatar).toList.map .avatar

namespace PersonaRecord

/-- The change that a record brings about: it is about the local account, about a person or about a
clan, or else changes nothing. -/
def change? (self : AccountId) (fields : FlagSet PersonaField) (record : PersonaRecord) :
    Option Change :=
  if record.id = self then some (.editPersona record.personaEdits)
  else if record.id.isIndividual then some (.editFriend record.id (record.friendEdits fields))
  else if record.id.isClan then
    some (.editClan record.id (clanIdentityEdits fields record.name record.avatar))
  else none

/-- The event that tells of a record. -/
def event (fields : FlagSet PersonaField) (record : PersonaRecord) : PersonaEvent where
  fields
  id := record.id
  status := .ofCode record.status
  traits := ⟨record.traits.toBitVec⟩
  appId := record.appId
  gameId := record.gameId
  gameName := record.gameName
  serverAddress := record.serverAddress
  serverPort := record.serverPort
  queryPort := record.queryPort
  source := record.source
  gameData := record.gameData
  name := record.name
  avatar := record.avatar
  lastLogoff := record.lastLogoff
  lastLogon := record.lastLogon
  clanRank := record.clanRank
  clanTag := record.clanTag
  onlineInstances := record.onlineInstances
  publishedInstance := record.publishedInstance
  setByUser := record.setByUser
  facebookName := record.facebookName
  facebookId := record.facebookId

/-- The effects of a record. -/
def effects (self : AccountId) (fields : FlagSet PersonaField) (record : PersonaRecord) :
    List Effect :=
  (record.change? self fields).toList.map .change ++ [.publish (.persona (record.event fields))]

end PersonaRecord

/-- Every record is taken up and published by itself. -/
def PersonaList.script (self : AccountId) (list : PersonaList) : Script where
  effects := list.records.flatMap (PersonaRecord.effects self list.fields)

namespace ClanState

/-- The name of the clan, empty if it is not told. -/
def nameText (state : ClanState) : String :=
  match state.name with
  | some told => told.name
  | none => ""

/-- The fingerprint of the avatar, empty if it is not told. -/
def avatar (state : ClanState) : String :=
  match state.name with
  | some told => Avatar.fingerprint told.avatarDigest
  | none => ""

/-- What numbers of members change about a clan: they are all set together. -/
def countEdits (counts : ClanCounts) : List Clan.Edit :=
  [.total counts.total, .online counts.online, .chatting counts.chatting, .inGame counts.inGame]

/-- What the message changes about the clan. -/
def edits (state : ClanState) : List Clan.Edit :=
  clanIdentityEdits state.fields state.nameText state.avatar ++
    match state.counts with
    | some counts => countEdits counts
    | none => []

/-- The event that tells of the message. -/
def event (state : ClanState) : ClanEvent where
  id := state.id
  fields := state.fields
  accountFlags := state.accountFlags
  name := state.nameText
  avatar := state.avatar
  counts := state.counts.getD ⟨0, 0, 0, 0⟩
  events := state.events
  announcements := state.announcements

/-- The state is taken up and published. -/
def script (state : ClanState) : Script where
  effects := [.change (.editClan state.id state.edits), .publish (.clan state.event)]

end ClanState

end Presence
