import Mathlib.Data.List.Nodup
import Presence.Registry.Basic

/-!
# Codes and meanings

A received code stands for a meaning exactly if it is the code of that meaning, and whatever it
stands for is sent with the same code again. A code with a meaning is never kept as a bare code,
`Wire.canonical_ofCode`.
-/

namespace Presence

variable {α κ : Type} [Registry α κ]

/-- Different meanings have different codes. -/
theorem Registry.code_injective : Function.Injective (Registry.code : α → κ) := by
  intro first second code_eq
  exact List.inj_on_of_nodup_map Registry.nodup_codes (Registry.mem_entries first)
    (Registry.mem_entries second) code_eq

/-- A value that is not a bare code which has a meaning. -/
def Wire.Canonical (value : Wire α) : Prop :=
  ∀ code, value = .other code → ∀ meaning : α, Registry.code meaning ≠ code

variable [DecidableEq κ]

theorem Registry.code_of_find? {code : κ} {meaning : α}
    (found : (Registry.entries : List α).find? (fun entry => Registry.code entry = code) =
      some meaning) : Registry.code meaning = code := by
  simpa using List.find?_some found

namespace Wire

@[simp]
theorem code_ofCode (code : κ) : (ofCode code : Wire α).code = code := by
  simp only [ofCode]
  split
  · next meaning found => exact Registry.code_of_find? found
  · rfl

@[simp]
theorem ofCode_code (meaning : α) :
    (ofCode (Registry.code meaning) : Wire α) = .known meaning := by
  simp only [ofCode]
  split
  · next found_meaning found =>
      rw [Registry.code_injective (Registry.code_of_find? found)]
  · next not_found =>
      have absent := List.find?_eq_none.mp not_found meaning (Registry.mem_entries meaning)
      simp at absent

theorem ofCode_eq_known_iff {code : κ} {meaning : α} :
    (ofCode code : Wire α) = .known meaning ↔ code = Registry.code meaning := by
  constructor
  · intro known
    rw [← code_ofCode (α := α) code, known]
    rfl
  · rintro rfl
    exact ofCode_code meaning

theorem ofCode_inj {first second : κ} :
    (ofCode first : Wire α) = ofCode second ↔ first = second := by
  refine ⟨fun value_eq => ?_, fun code_eq => code_eq ▸ rfl⟩
  rw [← code_ofCode (α := α) first, value_eq, code_ofCode]

theorem ofCode_eq_other {code bare : κ} (is_other : (ofCode code : Wire α) = .other bare) :
    bare = code := by
  rw [← code_ofCode (α := α) code, is_other]
  rfl

theorem canonical_ofCode (code : κ) : (ofCode code : Wire α).Canonical := by
  intro bare bare_eq meaning code_eq
  rw [← ofCode_eq_other bare_eq, ← code_eq, ofCode_code] at bare_eq
  cases bare_eq

end Wire

end Presence
