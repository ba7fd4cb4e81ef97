import Presence.Flags.Kinds

/-!
# Settings

What can be set about a session and about its log. Everything has a default.
-/

namespace Presence

/-- How a session goes about its work. -/
structure SessionSettings where
  /-- What to ask about all friends once a complete friend list has come in. -/
  friendFields : FlagSet PersonaField := PersonaField.ofFriends
  /-- Whether to ask about the local account after login. -/
  asksForSelf : Bool := true
  /-- What to ask about the local account. -/
  selfFields : FlagSet PersonaField := PersonaField.ofLocalAccount
deriving DecidableEq, Inhabited

/-- How log records are written. -/
inductive LogFormat where
  | pretty
  | json
deriving DecidableEq, Inhabited

/-- The name of a log format in a settings file. -/
def LogFormat.name : LogFormat → String
  | .pretty => "pretty"
  | .json => "json"

/-- How the log is written. -/
structure LogSettings where
  filter : String := "info"
  format : LogFormat := .pretty
deriving DecidableEq, Inhabited

/-- All settings. -/
structure Settings where
  session : SessionSettings := {}
  log : LogSettings := {}
deriving DecidableEq, Inhabited

end Presence
