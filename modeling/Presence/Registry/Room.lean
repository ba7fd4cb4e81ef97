import Presence.Registry.Basic

/-!
# Codes that describe chat rooms

The kinds of lines and rooms, what happens to the members of a room, and what can be done in one.
-/

namespace Presence

/-- What a chat line carries. -/
inductive LineKind where
  | invalid
  | chatMsg
  | typing
  | inviteGame
  | emote
  | leftConversation
  | entered
  | wasKicked
  | wasBanned
  | disconnected
  | historicalChat
  | linkBlocked
deriving DecidableEq, Inhabited

instance : Registry LineKind Int32 where
  entries := [.invalid, .chatMsg, .typing, .inviteGame, .emote, .leftConversation, .entered,
    .wasKicked, .wasBanned, .disconnected, .historicalChat, .linkBlocked]
  code
    | .invalid => 0
    | .chatMsg => 1
    | .typing => 2
    | .inviteGame => 3
    | .emote => 4
    | .leftConversation => 6
    | .entered => 7
    | .wasKicked => 8
    | .wasBanned => 9
    | .disconnected => 10
    | .historicalChat => 11
    | .linkBlocked => 14
  label
    | .invalid => "Invalid"
    | .chatMsg => "ChatMsg"
    | .typing => "Typing"
    | .inviteGame => "InviteGame"
    | .emote => "Emote"
    | .leftConversation => "LeftConversation"
    | .entered => "Entered"
    | .wasKicked => "WasKicked"
    | .wasBanned => "WasBanned"
    | .disconnected => "Disconnected"
    | .historicalChat => "HistoricalChat"
    | .linkBlocked => "LinkBlocked"
  mem_entries meaning := by cases meaning <;> decide
  nodup_codes := by decide

/-- What a chat room is for. -/
inductive RoomKind where
  | friend
  | muc
  | lobby
deriving DecidableEq, Inhabited

instance : Registry RoomKind Int32 where
  entries := [.friend, .muc, .lobby]
  code
    | .friend => 1
    | .muc => 2
    | .lobby => 3
  label
    | .friend => "Friend"
    | .muc => "Muc"
    | .lobby => "Lobby"
  mem_entries meaning := by cases meaning <;> decide
  nodup_codes := by decide

/-- How the service answers an attempt to enter a room. -/
inductive EntryAnswer where
  | success
  | doesntExist
  | notAllowed
  | full
  | error
  | banned
  | limited
  | clanDisabled
  | communityBan
  | memberBlockedYou
  | youBlockedMember
deriving DecidableEq, Inhabited

instance : Registry EntryAnswer Int32 where
  entries := [.success, .doesntExist, .notAllowed, .full, .error, .banned, .limited,
    .clanDisabled, .communityBan, .memberBlockedYou, .youBlockedMember]
  code
    | .success => 1
    | .doesntExist => 2
    | .notAllowed => 3
    | .full => 4
    | .error => 5
    | .banned => 6
    | .limited => 7
    | .clanDisabled => 8
    | .communityBan => 9
    | .memberBlockedYou => 10
    | .youBlockedMember => 11
  label
    | .success => "Success"
    | .doesntExist => "DoesntExist"
    | .notAllowed => "NotAllowed"
    | .full => "Full"
    | .error => "Error"
    | .banned => "Banned"
    | .limited => "Limited"
    | .clanDisabled => "ClanDisabled"
    | .communityBan => "CommunityBan"
    | .memberBlockedYou => "MemberBlockedYou"
    | .youBlockedMember => "YouBlockedMember"
  mem_entries meaning := by cases meaning <;> decide
  nodup_codes := by decide

/-- What happened to a member of a room. -/
inductive MemberChange where
  | entered
  | left
  | disconnected
  | kicked
  | banned
  | voiceSpeaking
  | voiceDoneSpeaking
deriving DecidableEq, Inhabited

instance : Registry MemberChange Int32 where
  entries := [.entered, .left, .disconnected, .kicked, .banned, .voiceSpeaking,
    .voiceDoneSpeaking]
  code
    | .entered => 1
    | .left => 2
    | .disconnected => 4
    | .kicked => 8
    | .banned => 16
    | .voiceSpeaking => 4096
    | .voiceDoneSpeaking => 8192
  label
    | .entered => "Entered"
    | .left => "Left"
    | .disconnected => "Disconnected"
    | .kicked => "Kicked"
    | .banned => "Banned"
    | .voiceSpeaking => "VoiceSpeaking"
    | .voiceDoneSpeaking => "VoiceDoneSpeaking"
  mem_entries meaning := by cases meaning <;> decide
  nodup_codes := by decide

/-- Whether the change takes the member out of the room. -/
def MemberChange.leaves : MemberChange → Bool
  | .left | .disconnected | .kicked | .banned => true
  | .entered | .voiceSpeaking | .voiceDoneSpeaking => false

/-- Whether a received change takes the member out of the room: unregistered codes never do. -/
def MemberChange.removes : Wire MemberChange → Bool
  | .known change => change.leaves
  | .other _ => false

/-- What a message about the members of a room reports. -/
inductive MemberNews where
  | stateChange
  | infoUpdate
  | memberLimitChange
deriving DecidableEq, Inhabited

instance : Registry MemberNews Int32 where
  entries := [.stateChange, .infoUpdate, .memberLimitChange]
  code
    | .stateChange => 1
    | .infoUpdate => 2
    | .memberLimitChange => 3
  label
    | .stateChange => "StateChange"
    | .infoUpdate => "InfoUpdate"
    | .memberLimitChange => "MemberLimitChange"
  mem_entries meaning := by cases meaning <;> decide
  nodup_codes := by decide

/-- What can be done to a room or to one of its members. -/
inductive RoomAction where
  | inviteChat
  | kick
  | ban
  | unBan
  | startVoiceSpeak
  | endVoiceSpeak
  | lockChat
  | unlockChat
  | closeChat
  | setJoinable
  | setUnjoinable
  | setOwner
  | setInvisibleToFriends
  | setVisibleToFriends
  | setModerated
  | setUnmoderated
deriving DecidableEq, Inhabited

instance : Registry RoomAction Int32 where
  entries := [.inviteChat, .kick, .ban, .unBan, .startVoiceSpeak, .endVoiceSpeak, .lockChat,
    .unlockChat, .closeChat, .setJoinable, .setUnjoinable, .setOwner, .setInvisibleToFriends,
    .setVisibleToFriends, .setModerated, .setUnmoderated]
  code
    | .inviteChat => 1
    | .kick => 2
    | .ban => 3
    | .unBan => 4
    | .startVoiceSpeak => 5
    | .endVoiceSpeak => 6
    | .lockChat => 7
    | .unlockChat => 8
    | .closeChat => 9
    | .setJoinable => 10
    | .setUnjoinable => 11
    | .setOwner => 12
    | .setInvisibleToFriends => 13
    | .setVisibleToFriends => 14
    | .setModerated => 15
    | .setUnmoderated => 16
  label
    | .inviteChat => "InviteChat"
    | .kick => "Kick"
    | .ban => "Ban"
    | .unBan => "UnBan"
    | .startVoiceSpeak => "StartVoiceSpeak"
    | .endVoiceSpeak => "EndVoiceSpeak"
    | .lockChat => "LockChat"
    | .unlockChat => "UnlockChat"
    | .closeChat => "CloseChat"
    | .setJoinable => "SetJoinable"
    | .setUnjoinable => "SetUnjoinable"
    | .setOwner => "SetOwner"
    | .setInvisibleToFriends => "SetInvisibleToFriends"
    | .setVisibleToFriends => "SetVisibleToFriends"
    | .setModerated => "SetModerated"
    | .setUnmoderated => "SetUnmoderated"
  mem_entries meaning := by cases meaning <;> decide
  nodup_codes := by decide

/-- How the service answers a room action. -/
inductive RoomActionResult where
  | success
  | error
  | notPermitted
  | notAllowedOnClanMember
  | notAllowedOnBannedUser
  | notAllowedOnChatOwner
  | notAllowedOnSelf
  | chatDoesntExist
  | chatFull
  | voiceSlotsFull
deriving DecidableEq, Inhabited

instance : Registry RoomActionResult Int32 where
  entries := [.success, .error, .notPermitted, .notAllowedOnClanMember, .notAllowedOnBannedUser,
    .notAllowedOnChatOwner, .notAllowedOnSelf, .chatDoesntExist, .chatFull, .voiceSlotsFull]
  code
    | .success => 1
    | .error => 2
    | .notPermitted => 3
    | .notAllowedOnClanMember => 4
    | .notAllowedOnBannedUser => 5
    | .notAllowedOnChatOwner => 6
    | .notAllowedOnSelf => 7
    | .chatDoesntExist => 8
    | .chatFull => 9
    | .voiceSlotsFull => 10
  label
    | .success => "Success"
    | .error => "Error"
    | .notPermitted => "NotPermitted"
    | .notAllowedOnClanMember => "NotAllowedOnClanMember"
    | .notAllowedOnBannedUser => "NotAllowedOnBannedUser"
    | .notAllowedOnChatOwner => "NotAllowedOnChatOwner"
    | .notAllowedOnSelf => "NotAllowedOnSelf"
    | .chatDoesntExist => "ChatDoesntExist"
    | .chatFull => "ChatFull"
    | .voiceSlotsFull => "VoiceSlotsFull"
  mem_entries meaning := by cases meaning <;> decide
  nodup_codes := by decide

end Presence
