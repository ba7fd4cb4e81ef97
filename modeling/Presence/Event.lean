import Presence.Message

/-!
# Events

What the session tells its subscriber. An event is published after the store has taken up whatever
the event tells of.
-/

namespace Presence

/-- The persona of an account as it was received, whatever the store made of it. -/
structure PersonaEvent where
  fields : FlagSet PersonaField
  id : AccountId
  status : Wire Status
  /-- Further traits. -/
  traits : FlagSet PersonaTrait
  /-- The application the account is in. -/
  appId : UInt32
  gameId : UInt64
  gameName : String
  /-- The address of the game server. -/
  serverAddress : UInt32
  /-- Where at its address the game server is reached. -/
  serverPort : UInt32
  /-- Where at its address the game server takes queries. -/
  queryPort : UInt32
  /-- Where the information comes from. -/
  source : AccountId
  gameData : List UInt8
  name : String
  avatar : String
  /-- When the account last went offline. -/
  lastLogoff : UInt32
  /-- When the account last came online. -/
  lastLogon : UInt32
  /-- The rank in the account's clan. -/
  clanRank : UInt32
  /-- The tag of the account's clan. -/
  clanTag : String
  onlineInstances : UInt32
  publishedInstance : UInt32
  /-- Whether the availability was set by hand. -/
  setByUser : Bool
  /-- The name on a linked service. -/
  facebookName : String
  /-- The account on a linked service. -/
  facebookId : UInt64
deriving DecidableEq

/-- The state of a clan as it was received. -/
structure ClanEvent where
  id : AccountId
  fields : FlagSet PersonaField
  /-- The flags of the clan's account. -/
  accountFlags : UInt32
  /-- The name, empty if it was not told. -/
  name : String
  /-- The fingerprint of the avatar, empty if it was not told. -/
  avatar : String
  /-- The numbers of members, zero if they were not told. -/
  counts : ClanCounts
  events : List ClanNotice
  announcements : List ClanNotice
deriving DecidableEq

/-- A chat line. -/
structure LineEvent where
  /-- The room, if the line was not sent from one person to another. -/
  room : Option AccountId
  sender : AccountId
  text : String
  /-- What the line carries. -/
  kind : Wire LineKind
  /-- When the line was sent, if that is known. -/
  time : Option UInt32
deriving DecidableEq

/-- A room was entered. -/
structure EntryEvent where
  room : AccountId
  /-- The person that the room was opened with. -/
  friend : AccountId
  kind : Wire RoomKind
  owner : AccountId
  /-- The clan that owns the room. -/
  clan : AccountId
  flags : UInt8
  answer : Wire EntryAnswer
  name : String
deriving DecidableEq

/-- The state of a room's member changed. -/
structure MemberEvent where
  room : AccountId
  news : Wire MemberNews
  actedOn : AccountId
  change : Wire MemberChange
  actedBy : AccountId
deriving DecidableEq

/-- Something that the subscriber is told. -/
inductive Event where
  /-- The relation to a person changed. -/
  | friendRelation (id : AccountId) (relation : Wire FriendRelation)
  /-- The relation to a clan changed. -/
  | clanRelation (id : AccountId) (relation : Wire ClanRelation)
  /-- A complete friend list was taken up. -/
  | friendList
  | persona (event : PersonaEvent)
  | clan (event : ClanEvent)
  | line (event : LineEvent)
  | entry (event : EntryEvent)
  | member (event : MemberEvent)
  | roomActionOutcome (outcome : RoomActionOutcome)
  | invitation (invitation : Invitation)
  | friendAnswer (answer : FriendAnswer)
  | ignoreAnswer (result : Wire ServiceResult)
  | profile (profile : Profile)
deriving DecidableEq

/-- The name of a kind of event in the log. -/
def Event.label : Event → String
  | .friendRelation .. => "friend_state"
  | .clanRelation .. => "group_state"
  | .friendList => "friends_list"
  | .persona _ => "persona_state"
  | .clan _ => "clan_state"
  | .line _ => "chat_msg"
  | .entry _ => "chat_enter"
  | .member _ => "chat_member_info"
  | .roomActionOutcome _ => "chat_action_result"
  | .invitation _ => "chat_invite"
  | .friendAnswer _ => "friend_added"
  | .ignoreAnswer _ => "ignore_friend"
  | .profile _ => "profile_info"

end Presence
