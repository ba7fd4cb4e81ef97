import Presence.Flags.Basic

/-!
# Flag sets as words

Sets are put together and compared bit by bit, so their union and intersection obey the laws of
those on words. A set consists of its flags with a name and of its other bits,
`FlagSet.named_union_unnamed`.
-/

namespace Presence

namespace FlagSet

variable {φ : Type}

section

variable (first second third : FlagSet φ)

theorem union_comm : first ∪ second = second ∪ first :=
  FlagSet.ext (BitVec.or_comm first.bits second.bits)

theorem union_assoc : first ∪ second ∪ third = first ∪ (second ∪ third) :=
  FlagSet.ext (BitVec.or_assoc first.bits second.bits third.bits)

theorem union_left_comm : first ∪ (second ∪ third) = second ∪ (first ∪ third) := by
  rw [← union_assoc, union_comm first second, union_assoc]

theorem union_empty : first ∪ ∅ = first :=
  FlagSet.ext BitVec.or_zero

theorem empty_union : ∅ ∪ first = first :=
  FlagSet.ext BitVec.zero_or

theorem inter_empty : first ∩ ∅ = ∅ :=
  FlagSet.ext BitVec.and_zero

theorem inter_union : first ∩ (second ∪ third) = first ∩ second ∪ first ∩ third :=
  FlagSet.ext BitVec.and_or_distrib_left

/-- Each flag of a set is in another set or not. -/
theorem inter_union_sdiff : first ∩ second ∪ first \ second = first := by
  apply FlagSet.ext
  show first.bits &&& second.bits ||| first.bits &&& ~~~second.bits = first.bits
  rw [← BitVec.and_or_distrib_left, BitVec.or_not_self, BitVec.and_allOnes]

end

theorem isEmpty_iff {flags : FlagSet φ} : flags.isEmpty ↔ flags = ∅ := by
  rw [isEmpty, decide_eq_true_iff, FlagSet.ext_iff]
  rfl

variable [FlagKind φ]

theorem inter_single (flags : FlagSet φ) (flag : φ) :
    flags ∩ single flag = if flags.has flag then single flag else ∅ := by
  have bits_eq : (flags ∩ single flag).bits =
      if flags.bits.getLsbD (FlagKind.place flag) then (single flag).bits else 0#32 := by
    show flags.bits &&& 1#32 <<< FlagKind.place flag = _
    rw [← BitVec.twoPow_eq, BitVec.and_twoPow, single, ← BitVec.twoPow_eq]
  by_cases is_set : flags.has flag
  · rw [if_pos is_set]
    exact FlagSet.ext (of_decide_eq_true is_set)
  · have bit_clear : ¬flags.bits.getLsbD (FlagKind.place flag) := by
      intro bit_set
      rw [if_pos bit_set] at bits_eq
      exact is_set (decide_eq_true bits_eq)
    rw [if_neg bit_clear] at bits_eq
    rw [if_neg is_set]
    exact FlagSet.ext bits_eq

theorem ofList_filter_has (flags : FlagSet φ) (list : List φ) :
    ofList (list.filter flags.has) = flags ∩ ofList list := by
  induction list with
  | nil => exact (inter_empty flags).symm
  | cons flag rest ih =>
      have cons_eq : ofList (flag :: rest) = single flag ∪ ofList rest := rfl
      rw [cons_eq, inter_union, inter_single, ← ih, List.filter_cons]
      split
      · rfl
      · rw [empty_union]

/-- A set is made up of its flags with a name and of its other bits. -/
theorem named_union_unnamed (flags : FlagSet φ) : ofList flags.named ∪ flags.unnamed = flags := by
  rw [named, ofList_filter_has]
  exact inter_union_sdiff flags all

theorem unnamed_empty : (∅ : FlagSet φ).unnamed = ∅ :=
  FlagSet.ext BitVec.zero_and

end FlagSet

end Presence
