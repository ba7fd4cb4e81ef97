import Presence.Registry.Basic

/-!
# Account identifiers

Everybody and everything on the service is named by one 64-bit number: people, clans, chat rooms,
game servers. From the lowest bits up the number holds an account number (32 bits), an instance
(20 bits), the kind of account (4 bits) and a universe (8 bits).

A clan and its chat room share universe and account number. `AccountId.toRoom` and
`AccountId.toClan` lead from the one to the other.
-/

namespace Presence

/-- What an account identifier names. -/
inductive AccountKind where
  | invalid
  | individual
  | multiseat
  | gameServer
  | anonGameServer
  | pending
  | contentServer
  | clan
  | chat
  | consoleUser
  | anonUser
deriving DecidableEq, Inhabited

instance : Registry AccountKind UInt8 where
  entries := [.invalid, .individual, .multiseat, .gameServer, .anonGameServer, .pending,
    .contentServer, .clan, .chat, .consoleUser, .anonUser]
  code
    | .invalid => 0
    | .individual => 1
    | .multiseat => 2
    | .gameServer => 3
    | .anonGameServer => 4
    | .pending => 5
    | .contentServer => 6
    | .clan => 7
    | .chat => 8
    | .consoleUser => 9
    | .anonUser => 10
  label
    | .invalid => "Invalid"
    | .individual => "Individual"
    | .multiseat => "Multiseat"
    | .gameServer => "GameServer"
    | .anonGameServer => "AnonGameServer"
    | .pending => "Pending"
    | .contentServer => "ContentServer"
    | .clan => "Clan"
    | .chat => "Chat"
    | .consoleUser => "ConsoleUser"
    | .anonUser => "AnonUser"
  mem_entries meaning := by cases meaning <;> decide
  nodup_codes := by decide

/-- The identifier of an account, a clan or a chat room. -/
@[ext]
structure AccountId where
  /-- The whole identifier as one number. -/
  raw : UInt64
deriving DecidableEq, Inhabited

namespace AccountId

/-- Identifiers are ordered as numbers. -/
instance : LT AccountId := ⟨fun first second => first.raw < second.raw⟩

instance (first second : AccountId) : Decidable (first < second) :=
  inferInstanceAs (Decidable (first.raw < second.raw))

protected theorem lt_trans {first second third : AccountId} (lt_second : first < second)
    (lt_third : second < third) : first < third := by
  change first.raw < third.raw
  change first.raw < second.raw at lt_second
  change second.raw < third.raw at lt_third
  simp only [UInt64.lt_iff_toNat_lt] at *
  omega

protected theorem lt_irrefl (id : AccountId) : ¬id < id := by
  change ¬id.raw < id.raw
  simp

/-- Of two different identifiers one is the lesser. -/
theorem lt_of_not_lt {first second : AccountId} (not_lt : ¬first < second)
    (not_eq : first ≠ second) : second < first := by
  have raw_ne : first.raw ≠ second.raw := fun raw_eq => not_eq (AccountId.ext raw_eq)
  change ¬first.raw < second.raw at not_lt
  change second.raw < first.raw
  simp only [UInt64.lt_iff_toNat_lt, ← UInt64.toNat_inj, ne_eq] at *
  omega

instance : ToString AccountId := ⟨fun id => toString id.raw⟩

/-- The text of an identifier that says what it is. -/
def described (id : AccountId) : String := s!"SteamId({id})"

/-- The identifier with the given parts; of the kind and the instance only the bits that have a
place in the identifier are kept. -/
def ofParts (universeCode kindCode : UInt8) (instanceCode number : UInt32) : AccountId :=
  ⟨universeCode.toUInt64 * 0x100000000000000 + kindCode.toUInt64 % 0x10 * 0x10000000000000 +
    instanceCode.toUInt64 % 0x100000 * 0x100000000 + number.toUInt64⟩

/-- The universe, the highest 8 bits. -/
def universeCode (id : AccountId) : UInt8 := (id.raw / 0x100000000000000).toUInt8

/-- The code of the kind of account, 4 bits. -/
def kindCode (id : AccountId) : UInt8 := (id.raw / 0x10000000000000 % 0x10).toUInt8

/-- The instance, 20 bits. -/
def instanceCode (id : AccountId) : UInt32 := (id.raw / 0x100000000 % 0x100000).toUInt32

/-- The account number, the lowest 32 bits. -/
def number (id : AccountId) : UInt32 := id.raw.toUInt32

/-- The kind of account. -/
def kind (id : AccountId) : Wire AccountKind := .ofCode id.kindCode

/-- Whether the identifier names a clan. -/
def isClan (id : AccountId) : Bool := id.kind = .known .clan

/-- Whether the identifier names a single person. -/
def isIndividual (id : AccountId) : Bool := id.kind = .known .individual

/-- The instance of the chat room of a clan: the highest instance bit and no other. -/
def clanRoomInstance : UInt32 := 0x80000

/-- The chat room of a clan. Anything but a clan is left as it is. -/
def toRoom (id : AccountId) : AccountId :=
  if id.isClan then
    ofParts id.universeCode (Registry.code AccountKind.chat) clanRoomInstance id.number
  else id

/-- The clan of a chat room. Anything but a chat room is left as it is. -/
def toClan (id : AccountId) : AccountId :=
  if id.kind = .known .chat then
    ofParts id.universeCode (Registry.code AccountKind.clan) 0 id.number
  else id

end AccountId

end Presence
