/-!
# The link to the service

Requests leave through the link. The link refuses a request when its other end has been closed, or
when it was told to refuse everything for the time being; the second is looked at first.
-/

namespace Presence

/-- Why a request was not taken. -/
inductive LinkError where
  /-- The other end of the link is closed. -/
  | closed
  /-- The request was refused for the given reason. -/
  | rejected (why : String)
deriving DecidableEq

/-- The wording of the error. -/
def LinkError.message : LinkError → String
  | .closed => "transport closed"
  | .rejected why => s!"request rejected: {why}"

/-- The condition of the link. -/
structure Link where
  /-- Whether the other end is closed. -/
  closed : Bool := false
  /-- Why everything is refused for the time being, if it is. -/
  rejecting : Option String := none
deriving DecidableEq, Inhabited

/-- Why the link would refuse a request now, if it would. -/
def Link.refusal? (link : Link) : Option LinkError :=
  match link.rejecting with
  | some why => some (.rejected why)
  | none => if link.closed then some .closed else none

end Presence
