import Presence.Account
import Presence.Flags.Kinds
import Presence.Registry.Person
import Presence.Registry.Room
import Presence.Registry.Service

/-!
# Messages from the service

What the service tells the session. Most messages arrive as structured data; messages about chat
rooms consist of a header and of a payload that holds text or binary records.
-/

namespace Presence

/-- One entry of a friend list. -/
structure FriendListEntry where
  /-- A person or a clan. -/
  id : AccountId
  /-- The code of the relation; whether it is read as `FriendRelation` or as `ClanRelation` depends
  on the account. -/
  relation : UInt32
deriving DecidableEq, Inhabited

/-- The relations of the local account, or the changes to them. -/
structure FriendList where
  /-- Whether the list tells of changes only, rather than of everything. -/
  incremental : Bool
  /-- The entries in the order of their arrival. -/
  entries : List FriendListEntry
deriving DecidableEq, Inhabited

/-- The persona of one account. -/
structure PersonaRecord where
  /-- The account, a person or a clan. -/
  id : AccountId
  /-- The code of the availability. -/
  status : UInt32
  /-- The bits of further traits. -/
  traits : UInt32
  /-- The application the account is in. -/
  appId : UInt32
  gameId : UInt64
  gameName : String
  /-- The address of the game server. -/
  serverAddress : UInt32
  /-- Where at its address the game server is reached. -/
  serverPort : UInt32
  /-- Where at its address the game server takes queries. -/
  queryPort : UInt32
  /-- Where the information comes from. -/
  source : AccountId
  gameData : List UInt8
  name : String
  avatarDigest : List UInt8
  /-- When the account last went offline. -/
  lastLogoff : UInt32
  /-- When the account last came online. -/
  lastLogon : UInt32
  /-- The rank in the account's clan. -/
  clanRank : UInt32
  /-- The tag of the account's clan. -/
  clanTag : String
  onlineInstances : UInt32
  publishedInstance : UInt32
  /-- Whether the availability was set by hand. -/
  setByUser : Bool
  /-- The name on a linked service. -/
  facebookName : String
  /-- The account on a linked service. -/
  facebookId : UInt64
deriving DecidableEq, Inhabited

/-- The personas of several accounts. -/
structure PersonaList where
  /-- The fields that mean something in every record. -/
  fields : FlagSet PersonaField
  /-- The records in the order of their arrival. -/
  records : List PersonaRecord
deriving DecidableEq, Inhabited

/-- The name and the avatar of a clan. -/
structure ClanName where
  name : String
  avatarDigest : List UInt8
deriving DecidableEq, Inhabited

/-- How many members of a clan there are. -/
structure ClanCounts where
  total : UInt32
  online : UInt32
  /-- The number of members in the clan's chat room. -/
  chatting : UInt32
  /-- The number of members in a game. -/
  inGame : UInt32
deriving DecidableEq, Inhabited

/-- An event or an announcement of a clan. -/
structure ClanNotice where
  id : UInt64
  time : UInt32
  headline : String
  gameId : UInt64
  /-- Whether it has just been posted. -/
  justPosted : Bool
deriving DecidableEq, Inhabited

/-- The state of a clan. -/
structure ClanState where
  id : AccountId
  fields : FlagSet PersonaField
  /-- The flags of the clan's account. -/
  accountFlags : UInt32
  /-- The name and the avatar, if they are told. -/
  name : Option ClanName
  /-- The numbers of members, if they are told. -/
  counts : Option ClanCounts
  events : List ClanNotice
  announcements : List ClanNotice
deriving DecidableEq, Inhabited

/-- A chat line from one person. -/
structure FriendLine where
  sender : AccountId
  /-- What the line carries. -/
  kind : Wire LineKind
  /-- The text, which ends at the first zero byte. -/
  text : List UInt8
  time : UInt32
deriving DecidableEq, Inhabited

/-- A chat line in a room. -/
structure RoomLine where
  /-- What the line carries. -/
  kind : Wire LineKind
  sender : AccountId
  room : AccountId
  /-- The text, which ends at the first zero byte. -/
  text : List UInt8
deriving DecidableEq, Inhabited

/-- The answer to an attempt to enter a room. -/
structure RoomEntry where
  room : AccountId
  /-- The person that the room was opened with. -/
  friend : AccountId
  kind : Wire RoomKind
  owner : AccountId
  /-- The clan that owns the room. -/
  clan : AccountId
  flags : UInt8
  answer : Wire EntryAnswer
  memberCount : Int32
  /-- The name of the room and its roster. -/
  payload : List UInt8
deriving DecidableEq, Inhabited

/-- A report about the members of a room. -/
structure MemberReport where
  room : AccountId
  news : Wire MemberNews
  /-- A state change, if that is what is reported. -/
  payload : List UInt8
deriving DecidableEq, Inhabited

/-- The outcome of a room action. -/
structure RoomActionOutcome where
  room : AccountId
  /-- The member acted on. -/
  target : AccountId
  action : Wire RoomAction
  result : Wire RoomActionResult
deriving DecidableEq, Inhabited

/-- An invitation to a room. -/
structure Invitation where
  invited : AccountId
  room : AccountId
  /-- Who invites. -/
  patron : AccountId
  kind : Wire RoomKind
  /-- The friend that the room was opened with. -/
  friend : AccountId
  name : String
  /-- The game that the room belongs to. -/
  gameId : UInt64
deriving DecidableEq, Inhabited

/-- The answer to a friend request. -/
structure FriendAnswer where
  result : Wire ServiceResult
  /-- The person who was asked. -/
  id : AccountId
  name : String
deriving DecidableEq, Inhabited

/-- The profile of an account. -/
structure Profile where
  /-- Whether the profile could be told. -/
  result : Wire ServiceResult
  id : AccountId
  created : UInt32
  realName : String
  city : String
  state : String
  country : String
  headline : String
  summary : String
deriving DecidableEq, Inhabited

/-- A message from the service. -/
inductive Message where
  | accountInfo
  | friendList (list : FriendList)
  | personaList (list : PersonaList)
  | clanState (state : ClanState)
  | friendLine (line : FriendLine)
  | roomLine (line : RoomLine)
  | roomEntry (entry : RoomEntry)
  | memberReport (report : MemberReport)
  | roomActionOutcome (outcome : RoomActionOutcome)
  | invitation (invitation : Invitation)
  | friendAnswer (answer : FriendAnswer)
  /-- The answer to a request to ignore somebody. -/
  | ignoreAnswer (result : Wire ServiceResult)
  | profile (profile : Profile)
  /-- A message that the session has no use for. -/
  | other (code : UInt32) (payload : List UInt8)
deriving DecidableEq

/-- What kind of message it is. -/
inductive MessageKind where
  | accountInfo
  | friendList
  | personaList
  | clanState
  | friendLine
  | roomLine
  | roomEntry
  | memberReport
  | roomActionOutcome
  | invitation
  | friendAnswer
  | ignoreAnswer
  | profile
  | other (code : UInt32)
deriving DecidableEq

/-- The kind of a message. -/
def Message.kind : Message → MessageKind
  | .accountInfo => .accountInfo
  | .friendList _ => .friendList
  | .personaList _ => .personaList
  | .clanState _ => .clanState
  | .friendLine _ => .friendLine
  | .roomLine _ => .roomLine
  | .roomEntry _ => .roomEntry
  | .memberReport _ => .memberReport
  | .roomActionOutcome _ => .roomActionOutcome
  | .invitation _ => .invitation
  | .friendAnswer _ => .friendAnswer
  | .ignoreAnswer _ => .ignoreAnswer
  | .profile _ => .profile
  | .other code _ => .other code

namespace MessageKind

/-- The name of a kind of message in the log. -/
def label : MessageKind → String
  | .accountInfo => "account_info"
  | .friendList => "friends_list"
  | .personaList => "persona_state"
  | .clanState => "clan_state"
  | .friendLine => "friend_msg_incoming"
  | .roomLine => "chat_msg"
  | .roomEntry => "chat_enter"
  | .memberReport => "chat_member_info"
  | .roomActionOutcome => "chat_action_result"
  | .invitation => "chat_invite"
  | .friendAnswer => "add_friend_response"
  | .ignoreAnswer => "set_ignore_friend_response"
  | .profile => "friend_profile_info_response"
  | .other _ => "other"

/-- The full name of a kind of message, with the code of an unknown one. -/
def described : MessageKind → String
  | .accountInfo => "AccountInfo"
  | .friendList => "FriendsList"
  | .personaList => "PersonaState"
  | .clanState => "ClanState"
  | .friendLine => "FriendMsgIncoming"
  | .roomLine => "ChatMsg"
  | .roomEntry => "ChatEnter"
  | .memberReport => "ChatMemberInfo"
  | .roomActionOutcome => "ChatActionResult"
  | .invitation => "ChatInvite"
  | .friendAnswer => "AddFriendResponse"
  | .ignoreAnswer => "SetIgnoreFriendResponse"
  | .profile => "FriendProfileInfoResponse"
  | .other code => s!"Other({code})"

end MessageKind

end Presence
