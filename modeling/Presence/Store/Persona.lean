import Presence.Registry.Person

/-!
# The local persona

What the session knows about the account that it is logged in as.
-/

namespace Presence

/-- What the local account shows of itself. -/
structure Persona where
  /-- The persona name, empty until known. -/
  name : String := ""
  /-- The avatar's fingerprint, empty until known. -/
  avatar : String := ""
  /-- The availability last set in this session. -/
  status : Wire Status := default
deriving DecidableEq, Inhabited

namespace Persona

/-- A new value for one field. -/
inductive Edit where
  | name (value : String)
  | avatar (value : String)
  | status (value : Wire Status)
deriving DecidableEq

/-- The persona with one field replaced. -/
def edit (persona : Persona) : Edit → Persona
  | .name value => { persona with name := value }
  | .avatar value => { persona with avatar := value }
  | .status value => { persona with status := value }

/-- The persona after several edits, the first one first. -/
def editAll (persona : Persona) (edits : List Edit) : Persona := edits.foldl edit persona

end Persona

end Presence
