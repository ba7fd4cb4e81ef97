import Presence.Registry.Basic

/-!
# Codes that describe people

How another account or a clan relates to the local account, and what an account shows of itself.
-/

namespace Presence

/-- How an individual relates to the local account. -/
inductive FriendRelation where
  | none
  | blocked
  | requestRecipient
  | friend
  | requestInitiator
  | ignored
  | ignoredFriend
  | suggestedFriend
deriving DecidableEq, Inhabited

instance : Registry FriendRelation UInt32 where
  entries := [.none, .blocked, .requestRecipient, .friend, .requestInitiator, .ignored,
    .ignoredFriend, .suggestedFriend]
  code
    | .none => 0
    | .blocked => 1
    | .requestRecipient => 2
    | .friend => 3
    | .requestInitiator => 4
    | .ignored => 5
    | .ignoredFriend => 6
    | .suggestedFriend => 7
  label
    | .none => "None"
    | .blocked => "Blocked"
    | .requestRecipient => "RequestRecipient"
    | .friend => "Friend"
    | .requestInitiator => "RequestInitiator"
    | .ignored => "Ignored"
    | .ignoredFriend => "IgnoredFriend"
    | .suggestedFriend => "SuggestedFriend"
  mem_entries meaning := by cases meaning <;> decide
  nodup_codes := by decide

/-- How a clan relates to the local account. -/
inductive ClanRelation where
  | none
  | blocked
  | invited
  | member
  | kicked
  | kickAcknowledged
deriving DecidableEq, Inhabited

instance : Registry ClanRelation UInt32 where
  entries := [.none, .blocked, .invited, .member, .kicked, .kickAcknowledged]
  code
    | .none => 0
    | .blocked => 1
    | .invited => 2
    | .member => 3
    | .kicked => 4
    | .kickAcknowledged => 5
  label
    | .none => "None"
    | .blocked => "Blocked"
    | .invited => "Invited"
    | .member => "Member"
    | .kicked => "Kicked"
    | .kickAcknowledged => "KickAcknowledged"
  mem_entries meaning := by cases meaning <;> decide
  nodup_codes := by decide

/-- How available an account shows itself. -/
inductive Status where
  | offline
  | online
  | busy
  | away
  | snooze
  | lookingToTrade
  | lookingToPlay
deriving DecidableEq, Inhabited

instance : Registry Status UInt32 where
  entries := [.offline, .online, .busy, .away, .snooze, .lookingToTrade, .lookingToPlay]
  code
    | .offline => 0
    | .online => 1
    | .busy => 2
    | .away => 3
    | .snooze => 4
    | .lookingToTrade => 5
    | .lookingToPlay => 6
  label
    | .offline => "Offline"
    | .online => "Online"
    | .busy => "Busy"
    | .away => "Away"
    | .snooze => "Snooze"
    | .lookingToTrade => "LookingToTrade"
    | .lookingToPlay => "LookingToPlay"
  mem_entries meaning := by cases meaning <;> decide
  nodup_codes := by decide

end Presence
