/-!
# Registered codes

Many fields of the protocol choose one meaning from a short list and carry it as a small integer.
`Registry` records such a list, and `Wire` is a field as it arrives: a registered meaning, or a
code that nobody has registered yet. Unregistered codes are kept as they are, so that a value
passes through a session untouched.
-/

namespace Presence

/-- The registered meanings of a field, each with the code it travels as and its printed name. -/
class Registry (α : Type) (κ : outParam Type) where
  /-- Every meaning, in the order of registration. -/
  entries : List α
  /-- The code that a meaning travels as. -/
  code : α → κ
  /-- The printed name of a meaning. -/
  label : α → String
  /-- No meaning is left out of the list. -/
  mem_entries : ∀ meaning, meaning ∈ entries
  /-- No two meanings share a code. -/
  nodup_codes : (entries.map code).Nodup

/-- The value of a field on the wire. -/
inductive Wire (α : Type) {κ : Type} [Registry α κ] where
  | known (meaning : α)
  /-- A code without a registered meaning. -/
  | other (code : κ)
deriving DecidableEq

namespace Wire

variable {α κ : Type} [Registry α κ]

instance [Inhabited α] : Inhabited (Wire α) := ⟨.known default⟩

/-- The value that a received code stands for. -/
def ofCode [DecidableEq κ] (code : κ) : Wire α :=
  match (Registry.entries : List α).find? fun meaning => Registry.code meaning = code with
  | some meaning => .known meaning
  | none => .other code

/-- The code that a value is sent as. -/
def code : Wire α → κ
  | .known meaning => Registry.code meaning
  | .other code => code

/-- The printed name of a value: that of its meaning, or its bare code in brackets. -/
def label [ToString κ] : Wire α → String
  | .known meaning => Registry.label meaning
  | .other code => s!"Other({code})"

end Wire

end Presence
