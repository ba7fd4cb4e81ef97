import Presence.Registry.Basic

/-!
# Result codes

The service answers most requests with one of these codes.
-/

namespace Presence

/-- How the service answers a request. -/
inductive ServiceResult where
  | invalid
  | ok
  | fail
  | noConnection
  | invalidPassword
  | loggedInElsewhere
  | invalidProtocolVer
  | invalidParam
  | fileNotFound
  | busy
  | invalidState
  | invalidName
  | invalidEmail
  | duplicateName
  | accessDenied
  | timeout
  | banned
  | accountNotFound
  | invalidSteamId
  | serviceUnavailable
  | notLoggedOn
  | pending
  | limitExceeded
  | blocked
  | ignored
deriving DecidableEq, Inhabited

instance : Registry ServiceResult Int32 where
  entries := [.invalid, .ok, .fail, .noConnection, .invalidPassword, .loggedInElsewhere,
    .invalidProtocolVer, .invalidParam, .fileNotFound, .busy, .invalidState, .invalidName,
    .invalidEmail, .duplicateName, .accessDenied, .timeout, .banned, .accountNotFound,
    .invalidSteamId, .serviceUnavailable, .notLoggedOn, .pending, .limitExceeded, .blocked,
    .ignored]
  code
    | .invalid => 0
    | .ok => 1
    | .fail => 2
    | .noConnection => 3
    | .invalidPassword => 5
    | .loggedInElsewhere => 6
    | .invalidProtocolVer => 7
    | .invalidParam => 8
    | .fileNotFound => 9
    | .busy => 10
    | .invalidState => 11
    | .invalidName => 12
    | .invalidEmail => 13
    | .duplicateName => 14
    | .accessDenied => 15
    | .timeout => 16
    | .banned => 17
    | .accountNotFound => 18
    | .invalidSteamId => 19
    | .serviceUnavailable => 20
    | .notLoggedOn => 21
    | .pending => 22
    | .limitExceeded => 25
    | .blocked => 40
    | .ignored => 41
  label
    | .invalid => "Invalid"
    | .ok => "Ok"
    | .fail => "Fail"
    | .noConnection => "NoConnection"
    | .invalidPassword => "InvalidPassword"
    | .loggedInElsewhere => "LoggedInElsewhere"
    | .invalidProtocolVer => "InvalidProtocolVer"
    | .invalidParam => "InvalidParam"
    | .fileNotFound => "FileNotFound"
    | .busy => "Busy"
    | .invalidState => "InvalidState"
    | .invalidName => "InvalidName"
    | .invalidEmail => "InvalidEmail"
    | .duplicateName => "DuplicateName"
    | .accessDenied => "AccessDenied"
    | .timeout => "Timeout"
    | .banned => "Banned"
    | .accountNotFound => "AccountNotFound"
    | .invalidSteamId => "InvalidSteamId"
    | .serviceUnavailable => "ServiceUnavailable"
    | .notLoggedOn => "NotLoggedOn"
    | .pending => "Pending"
    | .limitExceeded => "LimitExceeded"
    | .blocked => "Blocked"
    | .ignored => "Ignored"
  mem_entries meaning := by cases meaning <;> decide
  nodup_codes := by decide

end Presence
