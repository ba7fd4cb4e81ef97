import Presence.Flags.Basic

/-!
# The kinds of flag sets

What a persona message carries, what an account shows about its client, and what the members of a
room may do.
-/

namespace Presence

/-- A group of persona fields that a message carries or a request asks for. -/
inductive PersonaField where
  | status
  | playerName
  | queryPort
  | sourceId
  | presence
  | metadata
  | lastSeen
  | clanInfo
  | gameExtraInfo
  | gameDataBlob
  | clanTag
  | facebook
deriving DecidableEq

instance : FlagKind PersonaField where
  title := "ClientPersonaStateFlags"
  signed := false
  entries := [.status, .playerName, .queryPort, .sourceId, .presence, .metadata, .lastSeen,
    .clanInfo, .gameExtraInfo, .gameDataBlob, .clanTag, .facebook]
  label
    | .status => "STATUS"
    | .playerName => "PLAYER_NAME"
    | .queryPort => "QUERY_PORT"
    | .sourceId => "SOURCE_ID"
    | .presence => "PRESENCE"
    | .metadata => "METADATA"
    | .lastSeen => "LAST_SEEN"
    | .clanInfo => "CLAN_INFO"
    | .gameExtraInfo => "GAME_EXTRA_INFO"
    | .gameDataBlob => "GAME_DATA_BLOB"
    | .clanTag => "CLAN_TAG"
    | .facebook => "FACEBOOK"
  place
    | .status => 0
    | .playerName => 1
    | .queryPort => 2
    | .sourceId => 3
    | .presence => 4
    | .metadata => 5
    | .lastSeen => 6
    | .clanInfo => 7
    | .gameExtraInfo => 8
    | .gameDataBlob => 9
    | .clanTag => 10
    | .facebook => 11

namespace PersonaField

/-- The fields worth knowing about every friend. -/
def ofFriends : FlagSet PersonaField :=
  .ofList [.playerName, .presence, .sourceId, .gameExtraInfo]

/-- The fields worth knowing about the local account. -/
def ofLocalAccount : FlagSet PersonaField := .ofList [.playerName, .presence, .sourceId]

end PersonaField

/-- Further facts about an account's persona and client. -/
inductive PersonaTrait where
  | hasRichPresence
  | inJoinableGame
  | golden
  | remotePlayTogether
  | clientTypeWeb
  | clientTypeMobile
  | clientTypeTenfoot
  | clientTypeVr
  | launchTypeGamepad
  | launchTypeCompatTool
deriving DecidableEq

instance : FlagKind PersonaTrait where
  title := "PersonaStateFlags"
  signed := false
  entries := [.hasRichPresence, .inJoinableGame, .golden, .remotePlayTogether, .clientTypeWeb,
    .clientTypeMobile, .clientTypeTenfoot, .clientTypeVr, .launchTypeGamepad,
    .launchTypeCompatTool]
  label
    | .hasRichPresence => "HAS_RICH_PRESENCE"
    | .inJoinableGame => "IN_JOINABLE_GAME"
    | .golden => "GOLDEN"
    | .remotePlayTogether => "REMOTE_PLAY_TOGETHER"
    | .clientTypeWeb => "CLIENT_TYPE_WEB"
    | .clientTypeMobile => "CLIENT_TYPE_MOBILE"
    | .clientTypeTenfoot => "CLIENT_TYPE_TENFOOT"
    | .clientTypeVr => "CLIENT_TYPE_VR"
    | .launchTypeGamepad => "LAUNCH_TYPE_GAMEPAD"
    | .launchTypeCompatTool => "LAUNCH_TYPE_COMPAT_TOOL"
  place
    | .hasRichPresence => 0
    | .inJoinableGame => 1
    | .golden => 2
    | .remotePlayTogether => 3
    | .clientTypeWeb => 8
    | .clientTypeMobile => 9
    | .clientTypeTenfoot => 10
    | .clientTypeVr => 11
    | .launchTypeGamepad => 12
    | .launchTypeCompatTool => 13

/-- What a member of a room may do in it. -/
inductive RoomRight where
  | close
  | invite
  | talk
  | kick
  | mute
  | setMetadata
  | changePermissions
  | ban
  | changeAccess
deriving DecidableEq

instance : FlagKind RoomRight where
  title := "ChatPermissions"
  signed := true
  entries := [.close, .invite, .talk, .kick, .mute, .setMetadata, .changePermissions, .ban,
    .changeAccess]
  label
    | .close => "CLOSE"
    | .invite => "INVITE"
    | .talk => "TALK"
    | .kick => "KICK"
    | .mute => "MUTE"
    | .setMetadata => "SET_METADATA"
    | .changePermissions => "CHANGE_PERMISSIONS"
    | .ban => "BAN"
    | .changeAccess => "CHANGE_ACCESS"
  place
    | .close => 0
    | .invite => 1
    | .talk => 3
    | .kick => 4
    | .mute => 5
    | .setMetadata => 6
    | .changePermissions => 7
    | .ban => 8
    | .changeAccess => 9

/-- The standing of a room's member in the clan that owns the room. -/
inductive ClanRank where
  | owner
  | officer
  | member
  | moderator
  | gameOwner
  | nonMember
deriving DecidableEq

instance : FlagKind ClanRank where
  title := "ClanPermissions"
  signed := true
  entries := [.owner, .officer, .member, .moderator, .gameOwner, .nonMember]
  label
    | .owner => "OWNER"
    | .officer => "OFFICER"
    | .member => "MEMBER"
    | .moderator => "MODERATOR"
    | .gameOwner => "OGG_GAME_OWNER"
    | .nonMember => "NON_MEMBER"
  place
    | .owner => 0
    | .officer => 1
    | .member => 2
    | .moderator => 3
    | .gameOwner => 4
    | .nonMember => 7

end Presence
