import Presence.Account
import Presence.Proofs.Registry

/-!
# Identifiers and their parts

An identifier is made up of its four parts and of nothing else: packing the parts of an identifier
gives it back, and packed parts are found again as far as there is room for them.

The way from a clan to its room and the way back are the same step with different values,
`AccountId.convert`: identifiers of one kind get another kind and a fixed instance. Such a step
keeps the universe and the number, and what it loses is the old instance. Exactly when there and
back again leads to the identifier one set out from is `AccountId.convert_convert_eq_iff`.
-/

namespace Presence

theorem AccountKind.code_mod (kind : AccountKind) :
    (Registry.code kind : UInt8) % 16 = Registry.code kind := by
  cases kind <;> decide

namespace AccountId

/-! ### Parts as numbers -/

theorem toNat_ofParts (universeCode kindCode : UInt8) (instanceCode number : UInt32) :
    (ofParts universeCode kindCode instanceCode number).raw.toNat =
      universeCode.toNat * 0x100000000000000 + kindCode.toNat % 0x10 * 0x10000000000000 +
        instanceCode.toNat % 0x100000 * 0x100000000 + number.toNat := by
  have universe_lt := universeCode.toNat_lt
  have number_lt := number.toNat_lt
  simp [ofParts]
  omega

theorem toNat_universeCode (id : AccountId) :
    id.universeCode.toNat = id.raw.toNat / 0x100000000000000 := by
  have raw_lt := id.raw.toNat_lt
  simp [universeCode]
  omega

theorem toNat_kindCode (id : AccountId) :
    id.kindCode.toNat = id.raw.toNat / 0x10000000000000 % 0x10 := by
  simp [kindCode]
  omega

theorem toNat_instanceCode (id : AccountId) :
    id.instanceCode.toNat = id.raw.toNat / 0x100000000 % 0x100000 := by
  simp [instanceCode]
  omega

theorem toNat_number (id : AccountId) : id.number.toNat = id.raw.toNat % 0x100000000 := by
  simp [number]

/-! ### Packing and unpacking -/

theorem ofParts_parts (id : AccountId) :
    ofParts id.universeCode id.kindCode id.instanceCode id.number = id := by
  apply AccountId.ext
  apply UInt64.toNat_inj.mp
  simp only [toNat_ofParts, toNat_universeCode, toNat_kindCode, toNat_instanceCode, toNat_number]
  omega

theorem ext_parts {first second : AccountId}
    (universe_eq : first.universeCode = second.universeCode)
    (kind_eq : first.kindCode = second.kindCode)
    (instance_eq : first.instanceCode = second.instanceCode)
    (number_eq : first.number = second.number) : first = second := by
  rw [← ofParts_parts first, universe_eq, kind_eq, instance_eq, number_eq, ofParts_parts]

section

variable (universeCode kindCode : UInt8) (instanceCode number : UInt32)

@[simp]
theorem universeCode_ofParts :
    (ofParts universeCode kindCode instanceCode number).universeCode = universeCode := by
  have number_lt := number.toNat_lt
  apply UInt8.toNat_inj.mp
  simp only [toNat_universeCode, toNat_ofParts]
  omega

@[simp]
theorem kindCode_ofParts :
    (ofParts universeCode kindCode instanceCode number).kindCode = kindCode % 16 := by
  have number_lt := number.toNat_lt
  apply UInt8.toNat_inj.mp
  simp only [toNat_kindCode, toNat_ofParts, UInt8.toNat_mod, UInt8.reduceToNat]
  omega

@[simp]
theorem instanceCode_ofParts :
    (ofParts universeCode kindCode instanceCode number).instanceCode =
      instanceCode % 0x100000 := by
  have number_lt := number.toNat_lt
  apply UInt32.toNat_inj.mp
  simp only [toNat_instanceCode, toNat_ofParts, UInt32.toNat_mod, UInt32.reduceToNat]
  omega

@[simp]
theorem number_ofParts :
    (ofParts universeCode kindCode instanceCode number).number = number := by
  have number_lt := number.toNat_lt
  apply UInt32.toNat_inj.mp
  simp only [toNat_number, toNat_ofParts]
  omega

@[simp]
theorem kind_ofParts (kind : AccountKind) :
    (ofParts universeCode (Registry.code kind) instanceCode number).kind = .known kind := by
  simp only [AccountId.kind, kindCode_ofParts, kind.code_mod, Wire.ofCode_code]

end

theorem kind_eq_iff {id : AccountId} {kind : AccountKind} :
    id.kind = .known kind ↔ id.kindCode = Registry.code kind :=
  Wire.ofCode_eq_known_iff

@[simp]
theorem code_kind (id : AccountId) : id.kind.code = id.kindCode := Wire.code_ofCode id.kindCode

/-! ### Identifiers of another kind -/

/-- The identifier with another kind and with the given instance, if it is of the kind `source`. -/
def convert (source target : AccountKind) (instanceCode : UInt32) (id : AccountId) : AccountId :=
  if id.kind = .known source then
    ofParts id.universeCode (Registry.code target) instanceCode id.number
  else id

theorem toRoom_eq_convert (id : AccountId) :
    id.toRoom = id.convert .clan .chat clanRoomInstance := by
  simp only [toRoom, isClan, convert, decide_eq_true_eq]

theorem toClan_eq_convert (id : AccountId) : id.toClan = id.convert .chat .clan 0 := rfl

variable {source target : AccountKind} {instanceCode back : UInt32} {id : AccountId}

theorem convert_of_kind (of_source : id.kind = .known source) :
    id.convert source target instanceCode =
      ofParts id.universeCode (Registry.code target) instanceCode id.number :=
  if_pos of_source

theorem convert_of_other (not_source : id.kind ≠ .known source) :
    id.convert source target instanceCode = id :=
  if_neg not_source

@[simp]
theorem universeCode_convert :
    (id.convert source target instanceCode).universeCode = id.universeCode := by
  simp only [convert]
  split
  · exact universeCode_ofParts ..
  · rfl

@[simp]
theorem number_convert : (id.convert source target instanceCode).number = id.number := by
  simp only [convert]
  split
  · exact number_ofParts ..
  · rfl

theorem kind_convert (of_source : id.kind = .known source) :
    (id.convert source target instanceCode).kind = .known target := by
  rw [convert_of_kind of_source]
  exact kind_ofParts ..

theorem known_ne (kinds_ne : source ≠ target) :
    (.known source : Wire AccountKind) ≠ .known target := by
  intro known_eq
  exact kinds_ne (Wire.known.inj known_eq)

theorem convert_again (kinds_ne : source ≠ target) :
    (id.convert source target instanceCode).convert source target instanceCode =
      id.convert source target instanceCode := by
  -- After one step there is nothing left of the kind that the step is about.
  apply convert_of_other
  by_cases of_source : id.kind = .known source
  · rw [kind_convert of_source]
    exact (known_ne kinds_ne).symm
  · rw [convert_of_other of_source]
    exact of_source

/-- There and back again leads to where one set out from only if nothing had to be replaced, or if
the instance was the one that the way back sets. -/
theorem convert_convert_eq_iff (kinds_ne : source ≠ target) :
    (id.convert source target instanceCode).convert target source back = id ↔
      (id.kind ≠ .known source ∧ id.kind ≠ .known target) ∨
        (id.kind = .known source ∧ id.instanceCode = back % 0x100000) := by
  by_cases of_source : id.kind = .known source
  · have returned : (id.convert source target instanceCode).convert target source back =
        ofParts id.universeCode (Registry.code source) back id.number := by
      rw [convert_of_kind (kind_convert of_source), universeCode_convert, number_convert]
    simp only [returned, of_source, ne_eq, not_true_eq_false, false_and, true_and, false_or]
    constructor
    · intro same
      rw [← same]
      exact instanceCode_ofParts ..
    · intro instance_eq
      apply ext_parts
      · exact universeCode_ofParts ..
      · rw [kindCode_ofParts, source.code_mod, kind_eq_iff.mp of_source]
      · rw [instanceCode_ofParts, instance_eq]
      · exact number_ofParts ..
  · simp only [convert_of_other of_source, of_source, ne_eq, not_false_eq_true, true_and,
      false_and, or_false]
    constructor
    · intro same of_target
      have kind_eq : (id.convert target source back).kind = .known source := kind_convert of_target
      rw [same, of_target] at kind_eq
      exact known_ne kinds_ne kind_eq.symm
    · exact convert_of_other

/-- Identifiers of the kind that a step is about become the same exactly if they share universe and
number. -/
theorem convert_eq_convert_iff {first second : AccountId} (first_of : first.kind = .known source)
    (second_of : second.kind = .known source) :
    first.convert source target instanceCode = second.convert source target instanceCode ↔
      first.universeCode = second.universeCode ∧ first.number = second.number := by
  constructor
  · intro same
    have universe_eq := congrArg universeCode same
    have number_eq := congrArg number same
    simp only [universeCode_convert] at universe_eq
    simp only [number_convert] at number_eq
    exact ⟨universe_eq, number_eq⟩
  · rintro ⟨universe_eq, number_eq⟩
    rw [convert_of_kind first_of, convert_of_kind second_of, universe_eq, number_eq]

/-! ### Clans and their rooms -/

/-- Whether the identifier names a room, by itself or by its clan. -/
def HasRoom (id : AccountId) : Prop := id.kind = .known .clan ∨ id.kind = .known .chat

theorem kind_toRoom {id : AccountId} (has_room : id.HasRoom) : id.toRoom.kind = .known .chat := by
  rw [toRoom_eq_convert]
  rcases has_room with is_clan | is_room
  · exact kind_convert is_clan
  · rw [convert_of_other]
    · exact is_room
    · rw [is_room]
      exact known_ne (by decide)

theorem toRoom_toRoom (id : AccountId) : id.toRoom.toRoom = id.toRoom := by
  simp only [toRoom_eq_convert]
  exact convert_again (by decide)

/-- Nothing is lost in packing identifiers: an identifier is what its parts make up, and of any four
numbers those bits come back that have a place. A clan leads to its room and a room to its clan, and
neither way changes the universe or the number, or anything that it is not about; a second step
changes nothing any more. There and back again leads from a clan to itself only without an instance,
and from a room to itself only with the instance of clan rooms. Two clans have the same room exactly
if they share universe and number. -/
theorem parts_and_rooms :
    (∀ id : AccountId,
      ofParts id.universeCode id.kind.code id.instanceCode id.number = id) ∧
    (∀ (universeCode kindCode : UInt8) (instanceCode number : UInt32),
      let id := ofParts universeCode kindCode instanceCode number
      id.universeCode = universeCode ∧ id.kind.code = kindCode % 16 ∧
        id.instanceCode = instanceCode % 0x100000 ∧ id.number = number) ∧
    (∀ id : AccountId, id.toRoom.toRoom = id.toRoom ∧ id.toClan.toClan = id.toClan) ∧
    (∀ id : AccountId, id.toRoom.universeCode = id.universeCode ∧ id.toRoom.number = id.number ∧
      id.toClan.universeCode = id.universeCode ∧ id.toClan.number = id.number) ∧
    (∀ id : AccountId, (id.kind ≠ .known .clan → id.toRoom = id) ∧
      (id.kind ≠ .known .chat → id.toClan = id)) ∧
    (∀ id : AccountId, id.toRoom.toClan = id ↔
      (id.kind ≠ .known .clan ∧ id.kind ≠ .known .chat) ∨
        (id.kind = .known .clan ∧ id.instanceCode = 0)) ∧
    (∀ id : AccountId, id.toClan.toRoom = id ↔
      (id.kind ≠ .known .clan ∧ id.kind ≠ .known .chat) ∨
        (id.kind = .known .chat ∧ id.instanceCode = 0x80000)) ∧
    ∀ first second : AccountId, first.kind = .known .clan → second.kind = .known .clan →
      (first.toRoom = second.toRoom ↔
        first.universeCode = second.universeCode ∧ first.number = second.number) := by
  simp only [toRoom_eq_convert, toClan_eq_convert, code_kind]
  refine ⟨ofParts_parts, ?_, ?_, ?_, ?_, ?_, ?_, ?_⟩
  · intro universeCode kindCode instanceCode number
    simp
  · intro id
    exact ⟨convert_again (by decide), convert_again (by decide)⟩
  · intro id
    simp
  · intro id
    exact ⟨convert_of_other, convert_of_other⟩
  · intro id
    exact convert_convert_eq_iff (by decide)
  · intro id
    exact (convert_convert_eq_iff (by decide)).trans (or_congr_left and_comm)
  · intro first second first_clan second_clan
    exact convert_eq_convert_iff first_clan second_clan

/-- Two clans that differ in nothing but their instances have one room, so one of them does not come
back from it. -/
theorem parts_and_rooms_of_stray_instance :
    let clan : AccountId := ⟨0x0170000000000003⟩
    let stray : AccountId := ⟨0x0170000500000003⟩
    clan.kind = .known .clan ∧ stray.kind = .known .clan ∧ clan.toRoom = stray.toRoom ∧
      clan.toRoom.toClan = clan ∧ stray.toRoom.toClan ≠ stray := by
  intro clan stray
  have is_clan : clan.kind = .known .clan := by decide
  have stray_is_clan : stray.kind = .known .clan := by decide
  obtain ⟨-, -, -, -, -, there_and_back, -, same_room⟩ := parts_and_rooms
  refine ⟨is_clan, stray_is_clan, ?_, ?_, ?_⟩
  · exact (same_room clan stray is_clan stray_is_clan).mpr (by decide)
  · exact (there_and_back clan).mpr (by decide)
  · exact (there_and_back stray).not.mpr (by decide)

end AccountId

end Presence
