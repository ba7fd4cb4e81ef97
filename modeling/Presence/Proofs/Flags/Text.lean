import Mathlib.Data.List.Nodup
import Presence.Flags.Kinds
import Presence.Proofs.Flags.Basic
import Presence.Proofs.Text.Hex
import Presence.Proofs.Text.Pieces
import Presence.Settings.File

/-!
# Flag sets read back from their text

What is written for a set is its names and a number for the other bits, and each of these parts is
read back by itself; `FlagSet.ofText_text` puts them together. The one obstacle is the sign. It has
no name in any kind of set, so it is written as part of the number, which is then too large for a
kind whose words are signed. What a text stands for does not depend on the order of its parts, since
flags are put together in any order, `FlagSet.ofParts_perm`.
-/

namespace Presence

namespace FlagSet

/-- What stands between two bars and is read as it is: it has neither bars nor blanks. -/
def Tidy (part : List Char) : Prop := part ≠ [] ∧ ∀ char ∈ part, char ≠ '|' ∧ ¬Text.isBlank char

instance : DecidablePred Tidy := fun part =>
  have := List.decidableBAll (fun char => char ≠ '|' ∧ ¬Text.isBlank char) part
  inferInstanceAs (Decidable (_ ∧ _))

end FlagSet

/-! ### Kinds with readable names -/

/-- The names of the flags can be told apart from each other and from numbers, and no flag has the
place of the sign. -/
class LawfulFlagKind (φ : Type) [FlagKind φ] : Prop where
  label_nodup : ((FlagKind.entries : List φ).map FlagKind.label).Nodup
  label_tidy : ∀ flag ∈ (FlagKind.entries : List φ), FlagSet.Tidy (FlagKind.label flag).toList
  label_head : ∀ flag ∈ (FlagKind.entries : List φ), (FlagKind.label flag).toList.head? ≠ some '0'
  sign_unnamed : FlagKind.signed φ → (FlagSet.all : FlagSet φ).bits.msb = false

instance : LawfulFlagKind PersonaField where
  label_nodup := by decide
  label_tidy := by decide
  label_head := by decide
  sign_unnamed := by decide

instance : LawfulFlagKind PersonaTrait where
  label_nodup := by decide
  label_tidy := by decide
  label_head := by decide
  sign_unnamed := by decide

instance : LawfulFlagKind RoomRight where
  label_nodup := by decide
  label_tidy := by decide
  label_head := by decide
  sign_unnamed := by decide

instance : LawfulFlagKind ClanRank where
  label_nodup := by decide
  label_tidy := by decide
  label_head := by decide
  sign_unnamed := by decide

namespace FlagSet

variable {φ : Type} [FlagKind φ]

/-! ### Parts that are read -/

theorem ofParts_cons_eq_ok_iff {part : List Char} {others : List (List Char)} {flags : FlagSet φ} :
    ofParts (part :: others) = .ok flags ↔
      ∃ first rest : FlagSet φ,
        ofPart part = .ok first ∧ ofParts others = .ok rest ∧ flags = first ∪ rest := by
  rw [ofParts]
  cases (ofPart part : Except FlagTextError (FlagSet φ)) with
  | error error => simp [bind, Except.bind]
  | ok first =>
      cases (ofParts others : Except FlagTextError (FlagSet φ)) with
      | error error => simp [bind, Except.bind]
      | ok rest => simp [bind, Except.bind, pure, Except.pure, eq_comm]

theorem ofParts_singleton (part : List Char) :
    (ofParts [part] : Except FlagTextError (FlagSet φ)) = ofPart part := by
  rw [ofParts]
  cases (ofPart part : Except FlagTextError (FlagSet φ)) with
  | error error => rfl
  | ok flags => exact congrArg Except.ok (union_empty flags)

theorem ofParts_swap {first second : List Char} {rest : List (List Char)} {flags : FlagSet φ}
    (is_read : ofParts (first :: second :: rest) = .ok flags) :
    ofParts (second :: first :: rest) = .ok flags := by
  rcases ofParts_cons_eq_ok_iff.mp is_read with ⟨of_first, _, first_eq, others_eq, rfl⟩
  rcases ofParts_cons_eq_ok_iff.mp others_eq with ⟨of_second, of_rest, second_eq, rest_eq, rfl⟩
  have swapped_eq := ofParts_cons_eq_ok_iff.mpr ⟨of_first, of_rest, first_eq, rest_eq, rfl⟩
  rw [union_left_comm]
  exact ofParts_cons_eq_ok_iff.mpr ⟨of_second, _, second_eq, swapped_eq, rfl⟩

/-- The order of the parts decides at most which error is found. -/
theorem ofParts_perm {parts others : List (List Char)} (perm : parts.Perm others)
    (flags : FlagSet φ) : ofParts parts = .ok flags ↔ ofParts others = .ok flags := by
  induction perm generalizing flags with
  | nil => rfl
  | cons part _ ih => simp only [ofParts_cons_eq_ok_iff, ih]
  | swap first second rest => exact ⟨ofParts_swap, ofParts_swap⟩
  | trans _ _ first_ih second_ih => exact (first_ih flags).trans (second_ih flags)

theorem ofText_eq (text : List Char) :
    (ofText text : Except FlagTextError (FlagSet φ)) =
      if Text.stripped '|' text = [[]] then .ok ∅ else ofParts (Text.stripped '|' text) := by
  have bar_not_blank : ¬Text.isBlank '|' := by decide
  simp only [ofText, List.isEmpty_iff, Text.stripped_eq_blank_iff bar_not_blank]
  rfl

theorem ofText_eq_ok_iff_of_rearranged {text other : List Char}
    (rearranged : Text.Rearranged '|' text other) (flags : FlagSet φ) :
    ofText text = .ok flags ↔ ofText other = .ok flags := by
  have perm := rearranged.perm_stripped (by decide)
  rw [ofText_eq, ofText_eq]
  by_cases blank : Text.stripped '|' text = [[]]
  · rw [blank, List.singleton_perm] at perm
    rw [blank, perm]
  · have other_not_blank : Text.stripped '|' other ≠ [[]] := by
      intro other_blank
      rw [other_blank, List.perm_singleton] at perm
      exact blank perm
    rw [if_neg blank, if_neg other_not_blank]
    exact ofParts_perm perm flags

/-! ### Numbers -/

theorem tidy_hex (number : Nat) : Tidy (['0', 'x'] ++ Hex.numeral number) := by
  have plain_digit : ∀ value < 16, Hex.digit value ≠ '|' ∧ ¬Text.isBlank (Hex.digit value) := by
    decide
  refine ⟨by simp, ?_⟩
  intro char char_mem
  simp only [List.cons_append, List.nil_append, List.mem_cons] at char_mem
  rcases char_mem with rfl | rfl | in_numeral
  · decide
  · decide
  · rcases Hex.mem_numeral in_numeral with ⟨value, small, rfl⟩
    exact plain_digit value small

/-- The numbers below this one stand for words. -/
def numberLimit (φ : Type) [FlagKind φ] : Nat :=
  if FlagKind.signed φ then 0x80000000 else 0x100000000

theorem numberLimit_pos : 0 < numberLimit φ := by
  rw [numberLimit]
  split <;> decide

theorem hexBits?_numeral (number : Nat) :
    hexBits? φ (Hex.numeral number) =
      if number < numberLimit φ then some (BitVec.ofNat 32 number) else none := by
  have no_sign : ∀ value < 16, Hex.digit value ≠ '+' ∧ Hex.digit value ≠ '-' := by decide
  have unsigned : ∀ char ∈ Hex.numeral number, char ≠ '+' ∧ char ≠ '-' := by
    intro char char_mem
    rcases Hex.mem_numeral char_mem with ⟨value, small, rfl⟩
    exact no_sign value small
  rw [hexBits?, hexBits?.upTo, Hex.number?_numeral]
  · rfl
  · intro digits numeral_eq
    exact (unsigned '+' (numeral_eq ▸ List.mem_cons_self)).1 rfl
  · intro digits numeral_eq
    exact (unsigned '-' (numeral_eq ▸ List.mem_cons_self)).2 rfl

theorem ofPart_hex (number : Nat) :
    (ofPart (['0', 'x'] ++ Hex.numeral number) : Except FlagTextError (FlagSet φ)) =
      if number < numberLimit φ then .ok ⟨BitVec.ofNat 32 number⟩ else .error .invalidHex := by
  rw [List.cons_append, List.cons_append, List.nil_append, ofPart, hexBits?_numeral]
  by_cases fits : number < numberLimit φ
  · simp only [fits, if_true]
  · simp only [fits, if_false]

/-! ### What is written -/

/-- What stands between the bars of the text. -/
def written (flags : FlagSet φ) : List (List Char) :=
  if flags.isEmpty then [['0', 'x'] ++ Hex.numeral 0] else flags.parts

theorem text_eq (flags : FlagSet φ) :
    flags.text = [' ', '|', ' '].intercalate flags.written := by
  have zero_eq : Hex.numeral 0 = ['0'] := by
    rw [Hex.numeral]
    rfl
  rw [text, written, zero_eq]
  split <;> simp

theorem written_ne_nil (flags : FlagSet φ) : flags.written ≠ [] := by
  rw [written]
  by_cases empty : flags.isEmpty
  · simp [empty]
  · rw [if_neg empty]
    intro parts_eq
    -- Without names and without other bits there is nothing in the set.
    rcases List.append_eq_nil_iff.mp parts_eq with ⟨labels_eq, number_eq⟩
    have named_eq := List.map_eq_nil_iff.mp labels_eq
    have all_named : flags.unnamed.isEmpty := by
      by_contra others
      rw [if_neg others] at number_eq
      exact List.cons_ne_nil _ _ number_eq
    apply empty
    rw [isEmpty_iff, ← named_union_unnamed flags, named_eq, isEmpty_iff.mp all_named]
    exact union_empty ∅

variable [LawfulFlagKind φ]

theorem tidy_of_mem_written {flags : FlagSet φ} {part : List Char}
    (part_mem : part ∈ flags.written) : Tidy part := by
  rw [written] at part_mem
  split at part_mem
  · rw [List.mem_singleton.mp part_mem]
    exact tidy_hex 0
  · rcases List.mem_append.mp part_mem with is_label | is_number
    · rcases List.mem_map.mp is_label with ⟨flag, flag_mem, rfl⟩
      exact LawfulFlagKind.label_tidy flag (List.mem_filter.mp flag_mem).1
    · split at is_number
      · cases is_number
      · rw [List.mem_singleton.mp is_number]
        exact tidy_hex _

theorem stripped_text (flags : FlagSet φ) : Text.stripped '|' flags.text = flags.written := by
  have whole : ∀ part ∈ flags.written, '|' ∉ part := by
    intro part part_mem bar_mem
    exact ((tidy_of_mem_written part_mem).2 '|' bar_mem).1 rfl
  have trimmed : ∀ part ∈ flags.written, Text.trim part = part := by
    intro part part_mem
    apply Text.trim_of_no_blank
    intro char char_mem
    exact ((tidy_of_mem_written part_mem).2 char char_mem).2
  rw [text_eq, Text.stripped_spaced (by decide) flags.written_ne_nil whole]
  rw [List.map_congr_left trimmed, List.map_id']

theorem flagNamed?_label {flag : φ} (flag_mem : flag ∈ (FlagKind.entries : List φ)) :
    flagNamed? (FlagKind.label flag).toList = some flag := by
  cases found : (flagNamed? (FlagKind.label flag).toList : Option φ) with
  | none =>
      have absent := List.find?_eq_none.mp found flag flag_mem
      simp at absent
  | some other =>
      have other_mem := List.mem_of_find?_eq_some found
      have label_eq : (FlagKind.label other).toList = (FlagKind.label flag).toList := by
        simpa using List.find?_some found
      rw [String.toList_inj] at label_eq
      rw [List.inj_on_of_nodup_map LawfulFlagKind.label_nodup other_mem flag_mem label_eq]

theorem ofPart_label {flag : φ} (flag_mem : flag ∈ (FlagKind.entries : List φ)) :
    ofPart (FlagKind.label flag).toList = .ok (single flag) := by
  rw [ofPart, flagNamed?_label flag_mem]
  · exact (LawfulFlagKind.label_tidy flag flag_mem).1
  · intro digits label_eq
    apply LawfulFlagKind.label_head flag flag_mem
    rw [label_eq, List.head?_cons]

theorem ofParts_labels_append {named : List φ}
    (known : ∀ flag ∈ named, flag ∈ (FlagKind.entries : List φ)) (parts : List (List Char)) :
    ofParts (named.map (fun flag => (FlagKind.label flag).toList) ++ parts) =
      (ofParts parts).map (ofList named ∪ ·) := by
  induction named with
  | nil =>
      have nothing : ((ofList [] : FlagSet φ) ∪ ·) = id := funext empty_union
      rw [nothing, List.map_nil, List.nil_append]
      cases (ofParts parts : Except FlagTextError (FlagSet φ)) <;> rfl
  | cons flag rest ih =>
      have flag_eq := ofPart_label (known flag List.mem_cons_self)
      have rest_known : ∀ other ∈ rest, other ∈ (FlagKind.entries : List φ) := by
        intro other other_mem
        exact known other (List.mem_cons_of_mem flag other_mem)
      rw [List.map_cons, List.cons_append, ofParts, flag_eq, ih rest_known]
      cases (ofParts parts : Except FlagTextError (FlagSet φ)) with
      | error error => rfl
      | ok others => exact congrArg Except.ok (union_assoc _ _ _).symm

/-- The bits without a name keep the sign, as no flag has its place; so their number is too large
for a signed word exactly if the word is negative. -/
theorem unnamed_lt_numberLimit_iff (flags : FlagSet φ) :
    flags.unnamed.bits.toNat < numberLimit φ ↔ ¬flags.toInt < 0 := by
  rw [numberLimit, toInt]
  by_cases is_signed : FlagKind.signed φ
  · have msb_eq : flags.unnamed.bits.msb = flags.bits.msb := by
      show (flags.bits &&& ~~~(all : FlagSet φ).bits).msb = flags.bits.msb
      rw [BitVec.msb_and, BitVec.msb_not, LawfulFlagKind.sign_unnamed is_signed]
      simp
    have fits := BitVec.msb_eq_false_iff_two_mul_lt (x := flags.unnamed.bits)
    rw [msb_eq, BitVec.msb_eq_toInt, decide_eq_false_iff_not] at fits
    rw [if_pos is_signed, if_pos is_signed, fits]
    omega
  · have unnamed_lt := flags.unnamed.bits.isLt
    rw [if_neg is_signed, if_neg is_signed]
    omega

theorem ofPart_number (flags : FlagSet φ) :
    (ofPart (['0', 'x'] ++ Hex.numeral flags.unnamed.bits.toNat) :
      Except FlagTextError (FlagSet φ)) =
      if flags.toInt < 0 then .error .invalidHex else .ok flags.unnamed := by
  have fits_iff := unnamed_lt_numberLimit_iff flags
  rw [ofPart_hex, BitVec.ofNat_toNat, BitVec.setWidth_eq]
  by_cases negative : flags.toInt < 0
  · rw [if_pos negative, if_neg (fits_iff.not_left.mpr negative)]
  · rw [if_neg negative, if_pos (fits_iff.mpr negative)]

theorem ofParts_parts (flags : FlagSet φ) :
    ofParts flags.parts = if flags.toInt < 0 then .error .invalidHex else .ok flags := by
  have known : ∀ flag ∈ flags.named, flag ∈ (FlagKind.entries : List φ) := by
    intro flag flag_mem
    exact (List.mem_filter.mp flag_mem).1
  rw [parts, ofParts_labels_append known]
  by_cases all_named : flags.unnamed.isEmpty
  · have unnamed_eq := isEmpty_iff.mp all_named
    have flags_eq := named_union_unnamed flags
    have not_negative := (unnamed_lt_numberLimit_iff flags).mp (unnamed_eq ▸ numberLimit_pos)
    rw [unnamed_eq] at flags_eq
    rw [if_pos all_named, if_neg not_negative]
    exact congrArg Except.ok flags_eq
  · rw [if_neg all_named, ofParts_singleton, ofPart_number]
    by_cases negative : flags.toInt < 0
    · simp only [negative, if_true]
      rfl
    · simp only [negative, if_false]
      exact congrArg Except.ok (named_union_unnamed flags)

theorem ofParts_written (flags : FlagSet φ) :
    ofParts flags.written = if flags.toInt < 0 then .error .invalidHex else .ok flags := by
  rw [written]
  by_cases empty : flags.isEmpty
  · have number_eq := ofPart_number flags
    rw [isEmpty_iff.mp empty, unnamed_empty] at number_eq
    rw [if_pos empty, isEmpty_iff.mp empty, ofParts_singleton]
    exact number_eq
  · rw [if_neg empty, ofParts_parts]

/-- A set is read back from its text unless the sign is set, in which case the number of the other
bits is too large. -/
theorem ofText_text (flags : FlagSet φ) :
    ofText flags.text = if flags.toInt < 0 then .error .invalidHex else .ok flags := by
  have not_blank : flags.written ≠ [[]] := by
    intro written_eq
    have blank_mem : [] ∈ flags.written := written_eq ▸ List.mem_cons_self
    exact (tidy_of_mem_written blank_mem).1 rfl
  rw [ofText_eq, stripped_text, if_neg not_blank, ofParts_written]

theorem ofText_text_of_negative {flags : FlagSet φ} (negative : flags.toInt < 0) :
    (ofText flags.text : Except FlagTextError (FlagSet φ)) = .error .invalidHex := by
  rw [ofText_text, if_pos negative]

theorem ofText_text_eq_ok_iff (flags : FlagSet φ) :
    ofText flags.text = .ok flags ↔ 0 ≤ flags.toInt := by
  rw [ofText_text]
  by_cases negative : flags.toInt < 0
  · rw [if_pos negative]
    exact iff_of_false nofun (Int.not_le.mpr negative)
  · rw [if_neg negative]
    exact iff_of_true rfl (Int.not_lt.mp negative)

omit [LawfulFlagKind φ] in
theorem toInt_nonneg_of_unsigned (unsigned : FlagKind.signed φ = false) (flags : FlagSet φ) :
    0 ≤ flags.toInt := by
  rw [toInt, unsigned, if_neg Bool.false_ne_true]
  exact Int.natCast_nonneg _

/-- Every set of an unsigned kind is read back from its text, with or without bits that have no
name, and the fields of a persona are also read back from the settings. A set of a signed kind is
read back exactly if its word is not negative; if it is, the number of the other bits is too large
for the kind. Where a text is read, its parts may change places and have blanks put around them. -/
theorem texts_read_back :
    (∀ flags : FlagSet PersonaField, ofText flags.text = .ok flags ∧
      flagsOf? (.text (String.ofList flags.text)) = some flags) ∧
    (∀ flags : FlagSet PersonaTrait, ofText flags.text = .ok flags) ∧
    (∀ flags : FlagSet RoomRight, (ofText flags.text = .ok flags ↔ 0 ≤ flags.toInt) ∧
      (flags.toInt < 0 →
        (ofText flags.text : Except FlagTextError (FlagSet RoomRight)) = .error .invalidHex)) ∧
    (∀ flags : FlagSet ClanRank, (ofText flags.text = .ok flags ↔ 0 ≤ flags.toInt) ∧
      (flags.toInt < 0 →
        (ofText flags.text : Except FlagTextError (FlagSet ClanRank)) = .error .invalidHex)) ∧
    FlagTextError.invalidHex.message = "invalid hex flag" ∧
    ∀ (φ : Type) [FlagKind φ] (text other : List Char) (flags : FlagSet φ),
      Text.Rearranged '|' text other → (ofText text = .ok flags ↔ ofText other = .ok flags) := by
  refine ⟨?_, ?_, ?_, ?_, rfl, ?_⟩
  · intro flags
    have is_read := (ofText_text_eq_ok_iff flags).mpr (toInt_nonneg_of_unsigned rfl flags)
    refine ⟨is_read, ?_⟩
    rw [flagsOf?, textOf?, Option.bind_eq_bind, Option.bind_some, String.toList_ofList, is_read]
    rfl
  · intro flags
    exact (ofText_text_eq_ok_iff flags).mpr (toInt_nonneg_of_unsigned rfl flags)
  · intro flags
    exact ⟨ofText_text_eq_ok_iff flags, ofText_text_of_negative⟩
  · intro flags
    exact ⟨ofText_text_eq_ok_iff flags, ofText_text_of_negative⟩
  · intro φ _ text other flags rearranged
    exact ofText_eq_ok_iff_of_rearranged rearranged flags

/-- A set with a bit that has no name is read from its parts in another order and with more blanks,
too. The bit of the sign has no name either, but it is not read back. -/
theorem texts_read_back_of_stray_bits :
    let text := "STATUS | PRESENCE | 0x1000".toList
    let other := "  0x1000|STATUS  | PRESENCE ".toList
    let fields : FlagSet PersonaField := ⟨0x1011⟩
    let rights : FlagSet RoomRight := ⟨0x80000008⟩
    ofText text = .ok fields ∧ Text.Rearranged '|' text other ∧ ofText other = .ok fields ∧
      rights.toInt < 0 ∧
      (ofText rights.text : Except FlagTextError (FlagSet RoomRight)) = .error .invalidHex := by
  intro text other fields rights
  obtain ⟨-, -, rights_read, -, -, rearranged_read⟩ := texts_read_back
  have text_read : ofText text = .ok fields := by rfl
  have rearranged : Text.Rearranged '|' text other := by
    refine ⟨[" 0x1000".toList, "STATUS ".toList, " PRESENCE ".toList],
      ["  0x1000".toList, "STATUS  ".toList, " PRESENCE ".toList], by decide, ?_, by decide⟩
    apply List.Forall₂.cons ⟨[' '], [], Text.space_blank, nofun, by decide⟩
    apply List.Forall₂.cons ⟨[], [' '], nofun, Text.space_blank, by decide⟩
    exact .cons ⟨[], [], nofun, nofun, by decide⟩ .nil
  have other_read := (rearranged_read PersonaField text other fields rearranged).mp text_read
  have negative : rights.toInt < 0 := by decide
  exact ⟨text_read, rearranged, other_read, negative, (rights_read rights).2 negative⟩

end FlagSet

end Presence
