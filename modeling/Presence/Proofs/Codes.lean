import Presence.Proofs.Registry
import Presence.Registry.Service
import Presence.Script.People

/-!
# The codes of the protocol

Whatever code arrives in a field, the same code is sent again, and no two codes are taken for the
same. Conversely a value is received as it was sent, unless it is a bare code that has a meaning,
`Wire.IsAlias`; the wire never yields such a value. `Wire.faithful` derives all of this from the
list of a field's codes, and `codes_survive` gives the lists.
-/

namespace Presence

namespace Wire

variable {α κ : Type} [Registry α κ]

/-- A bare code that has a meaning. -/
def IsAlias (codes : List κ) (value : Wire α) : Prop := ∃ code ∈ codes, value = .other code

/-- Codes and values of a field stand for each other, `codes` being the codes with a meaning. -/
structure Faithful (α : Type) {κ : Type} [Registry α κ] [DecidableEq κ] (codes : List κ) :
    Prop where
  code_ofCode : ∀ code, (ofCode code : Wire α).code = code
  other_iff : ∀ code, (∃ bare, (ofCode code : Wire α) = .other bare) ↔ code ∉ codes
  ofCode_code_iff : ∀ value : Wire α, ofCode value.code = value ↔ ¬value.IsAlias codes
  eq_iff : ∀ first second : Wire α, ¬first.IsAlias codes → ¬second.IsAlias codes →
    (first = second ↔ first.code = second.code)

theorem mem_codes_iff {codes : List κ}
    (codes_eq : (Registry.entries : List α).map Registry.code = codes) {code : κ} :
    code ∈ codes ↔ ∃ meaning : α, Registry.code meaning = code := by
  rw [← codes_eq, List.mem_map]
  constructor
  · rintro ⟨meaning, _, code_eq⟩
    exact ⟨meaning, code_eq⟩
  · rintro ⟨meaning, code_eq⟩
    exact ⟨meaning, Registry.mem_entries meaning, code_eq⟩

variable [DecidableEq κ] {codes : List κ}

section

variable (codes_eq : (Registry.entries : List α).map Registry.code = codes)

include codes_eq

theorem not_isAlias_ofCode (code : κ) : ¬(ofCode code : Wire α).IsAlias codes := by
  rintro ⟨bare, bare_mem, is_other⟩
  rcases (mem_codes_iff codes_eq).mp bare_mem with ⟨meaning, code_eq⟩
  exact canonical_ofCode code bare is_other meaning code_eq

theorem exists_other_iff (code : κ) :
    (∃ bare, (ofCode code : Wire α) = .other bare) ↔ code ∉ codes := by
  constructor
  · rintro ⟨bare, is_other⟩ code_mem
    refine not_isAlias_ofCode codes_eq code ⟨bare, ?_, is_other⟩
    rw [ofCode_eq_other is_other]
    exact code_mem
  · intro not_mem
    cases value_eq : (ofCode code : Wire α) with
    | known meaning =>
        have code_eq := ofCode_eq_known_iff.mp value_eq
        exact absurd ((mem_codes_iff codes_eq).mpr ⟨meaning, code_eq.symm⟩) not_mem
    | other bare => exact ⟨bare, rfl⟩

theorem ofCode_code_of_not_alias {value : Wire α} (no_alias : ¬value.IsAlias codes) :
    ofCode value.code = value := by
  cases value with
  | known meaning => exact ofCode_code meaning
  | other code =>
      have not_mem : code ∉ codes := fun code_mem => no_alias ⟨code, code_mem, rfl⟩
      rcases (exists_other_iff codes_eq code).mpr not_mem with ⟨bare, is_other⟩
      rw [ofCode_eq_other is_other] at is_other
      exact is_other

theorem faithful : Faithful α codes where
  code_ofCode := code_ofCode
  other_iff := exists_other_iff codes_eq
  ofCode_code_iff value := by
    constructor
    · intro received
      rw [← received]
      exact not_isAlias_ofCode codes_eq value.code
    · exact ofCode_code_of_not_alias codes_eq
  eq_iff first second first_no_alias second_no_alias := by
    constructor
    · intro value_eq
      rw [value_eq]
    · intro code_eq
      rw [← ofCode_code_of_not_alias codes_eq first_no_alias, code_eq,
        ofCode_code_of_not_alias codes_eq second_no_alias]

end

end Wire

theorem FriendListEntry.removes_iff (entry : FriendListEntry) :
    entry.change = .removeFriend entry.id ∨ entry.change = .removeClan entry.id ↔
      entry.relation = 0 := by
  have friend_none : (.ofCode entry.relation : Wire FriendRelation) = .known .none ↔
      entry.relation = 0 := Wire.ofCode_eq_known_iff
  have clan_none : (.ofCode entry.relation : Wire ClanRelation) = .known .none ↔
      entry.relation = 0 := Wire.ofCode_eq_known_iff
  simp only [change, friend_none, clan_none]
  by_cases removes : entry.relation = 0
  · simp only [removes, if_true, iff_true]
    split
    · exact .inr rfl
    · exact .inl rfl
  · simp only [removes, if_false, iff_false]
    split <;> simp

/-- Every field of the protocol is faithful to its codes: they are received and sent again
untouched, and a value is the bare code exactly if the code is none of those listed. So the code of
a relation decides alone whether an entry of a friend list adds or removes somebody. -/
theorem codes_survive :
    Wire.Faithful FriendRelation [0, 1, 2, 3, 4, 5, 6, 7] ∧
    Wire.Faithful ClanRelation [0, 1, 2, 3, 4, 5] ∧
    Wire.Faithful Status [0, 1, 2, 3, 4, 5, 6] ∧
    Wire.Faithful LineKind [0, 1, 2, 3, 4, 6, 7, 8, 9, 10, 11, 14] ∧
    Wire.Faithful RoomKind [1, 2, 3] ∧
    Wire.Faithful EntryAnswer [1, 2, 3, 4, 5, 6, 7, 8, 9, 10, 11] ∧
    Wire.Faithful MemberChange [1, 2, 4, 8, 16, 4096, 8192] ∧
    Wire.Faithful MemberNews [1, 2, 3] ∧
    Wire.Faithful RoomAction [1, 2, 3, 4, 5, 6, 7, 8, 9, 10, 11, 12, 13, 14, 15, 16] ∧
    Wire.Faithful RoomActionResult [1, 2, 3, 4, 5, 6, 7, 8, 9, 10] ∧
    Wire.Faithful ServiceResult [0, 1, 2, 3, 5, 6, 7, 8, 9, 10, 11, 12, 13, 14, 15, 16, 17, 18, 19,
      20, 21, 22, 25, 40, 41] ∧
    Wire.Faithful AccountKind [0, 1, 2, 3, 4, 5, 6, 7, 8, 9, 10] ∧
    (∀ code, (.ofCode code : Wire FriendRelation) = .known .none ↔ code = 0) ∧
    (∀ code, (.ofCode code : Wire ClanRelation) = .known .none ↔ code = 0) ∧
    ∀ entry : FriendListEntry,
      entry.change = .removeFriend entry.id ∨ entry.change = .removeClan entry.id ↔
        entry.relation = 0 :=
  ⟨Wire.faithful rfl, Wire.faithful rfl, Wire.faithful rfl, Wire.faithful rfl, Wire.faithful rfl,
    Wire.faithful rfl, Wire.faithful rfl, Wire.faithful rfl, Wire.faithful rfl, Wire.faithful rfl,
    Wire.faithful rfl, Wire.faithful rfl, fun _ => Wire.ofCode_eq_known_iff,
    fun _ => Wire.ofCode_eq_known_iff, FriendListEntry.removes_iff⟩

end Presence
