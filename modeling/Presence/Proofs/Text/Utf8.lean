import Mathlib.Data.List.TakeWhile
import Mathlib.Data.Nat.Basic
import Presence.Text.Utf8

/-!
# Text is decoded as it was encoded

A character takes one to four bytes: one that says how many there are, and six bits in each of the
others. The decoder puts the bits together again, `pieces_encodeChar`, so that decoding undoes
encoding, `decode_encode`. A zero byte stands for the zero character and occurs in no other one, so
up to the first zero byte stands the text up to its first zero character, `decodeUntilZero_encode`.
-/

namespace Presence.Utf8

/-! ### Single bytes -/

theorem start_of_single : ∀ value < 128, start value = ([some (Char.ofNat value)], .between) := by
  intro value ascii
  rw [start, if_pos ascii]

theorem start_of_two : ∀ value < 32, 2 ≤ value →
    start (value + 192) = ([], .within value 1 0x80 0xBF) := by
  decide

/-- The first of three bytes: no shorter form and no surrogate may follow. -/
theorem start_of_three : ∀ value < 16, start (value + 224) =
    ([], .within value 2 (if value = 0 then 0xA0 else 0x80)
      (if value = 13 then 0x9F else 0xBF)) := by
  decide

/-- The first of four bytes: no shorter form and no number beyond the last character may follow. -/
theorem start_of_four : ∀ value < 5, start (value + 240) =
    ([], .within value 3 (if value = 0 then 0x90 else 0x80)
      (if value = 4 then 0x8F else 0xBF)) := by
  decide

variable {value : Nat}

theorem pieces_cons (progress : Progress) (small : value < 256) (rest : List UInt8) :
    pieces progress (UInt8.ofNat value :: rest) =
      (step progress value).1 ++ pieces (step progress value).2 rest := by
  rw [pieces, UInt8.toNat_ofNat', Nat.mod_eq_of_lt small]

section

variable {bits least greatest : Nat} (value_lt : value < 64) (least_le : least ≤ value + 128)
  (le_greatest : value + 128 ≤ greatest) (rest : List UInt8)

include value_lt least_le le_greatest

/-- The last byte of a character completes it. -/
theorem pieces_last :
    pieces (.within bits 1 least greatest) (UInt8.ofNat (value + 128) :: rest) =
      some (Char.ofNat (64 * bits + value)) :: pieces .between rest := by
  rw [pieces_cons _ (by omega), step, if_pos ⟨least_le, le_greatest⟩]
  simp

/-- A byte in front of the last one adds its bits. -/
theorem pieces_next (remaining : Nat) :
    pieces (.within bits (remaining + 2) least greatest) (UInt8.ofNat (value + 128) :: rest) =
      pieces (.within (64 * bits + value) (remaining + 1) 0x80 0xBF) rest := by
  rw [pieces_cons _ (by omega), step, if_pos ⟨least_le, le_greatest⟩]
  simp

end

/-! ### Characters -/

section

variable {code : Nat} (rest : List UInt8)

theorem pieces_of_single (ascii : code ≤ 127) :
    pieces .between (UInt8.ofNat code :: rest) =
      some (Char.ofNat code) :: pieces .between rest := by
  rw [pieces_cons _ (by omega), step, start_of_single _ (by omega)]
  rfl

theorem pieces_of_two (least : 127 < code) (greatest : code ≤ 2047) :
    pieces .between (UInt8.ofNat (code / 64 % 32 + 192) :: UInt8.ofNat (code % 64 + 128) :: rest) =
      some (Char.ofNat code) :: pieces .between rest := by
  have code_eq : 64 * (code / 64 % 32) + code % 64 = code := by omega
  rw [pieces_cons _ (by omega), step, start_of_two _ (by omega) (by omega)]
  simp only [List.nil_append]
  rw [pieces_last (by omega) (by omega) (by omega), code_eq]

theorem pieces_of_three (least : 2047 < code) (greatest : code ≤ 65535)
    (valid : code.isValidChar) :
    pieces .between (UInt8.ofNat (code / 4096 % 16 + 224) ::
        UInt8.ofNat (code / 64 % 64 + 128) :: UInt8.ofNat (code % 64 + 128) :: rest) =
      some (Char.ofNat code) :: pieces .between rest := by
  have code_eq : 64 * (64 * (code / 4096 % 16) + code / 64 % 64) + code % 64 = code := by omega
  have least_le : (if code / 4096 % 16 = 0 then 0xA0 else 0x80) ≤ code / 64 % 64 + 128 := by
    split <;> omega
  have le_greatest : code / 64 % 64 + 128 ≤ if code / 4096 % 16 = 13 then 0x9F else 0xBF := by
    split <;> omega
  rw [pieces_cons _ (by omega), step, start_of_three _ (by omega)]
  simp only [List.nil_append]
  rw [pieces_next (by omega) least_le le_greatest, pieces_last (by omega) (by omega) (by omega),
    code_eq]

theorem pieces_of_four (least : 65535 < code) (valid : code.isValidChar) :
    pieces .between (UInt8.ofNat (code / 262144 % 8 + 240) ::
        UInt8.ofNat (code / 4096 % 64 + 128) :: UInt8.ofNat (code / 64 % 64 + 128) ::
          UInt8.ofNat (code % 64 + 128) :: rest) =
      some (Char.ofNat code) :: pieces .between rest := by
  have code_eq : 64 * (64 * (64 * (code / 262144 % 8) + code / 4096 % 64) + code / 64 % 64) +
      code % 64 = code := by omega
  have least_le : (if code / 262144 % 8 = 0 then 0x90 else 0x80) ≤ code / 4096 % 64 + 128 := by
    split <;> omega
  have le_greatest : code / 4096 % 64 + 128 ≤ if code / 262144 % 8 = 4 then 0x8F else 0xBF := by
    split <;> omega
  rw [pieces_cons _ (by omega), step, start_of_four _ (by omega)]
  simp only [List.nil_append]
  rw [pieces_next (by omega) least_le le_greatest, pieces_next (by omega) (by omega) (by omega),
    pieces_last (by omega) (by omega) (by omega), code_eq]

end

theorem pieces_encodeChar (char : Char) (rest : List UInt8) :
    pieces .between (String.utf8EncodeChar char ++ rest) = some char :: pieces .between rest := by
  have valid : char.toNat.isValidChar := char.valid
  have char_eq : some (Char.ofNat char.toNat) = some char := congrArg some (Char.ofNat_toNat char)
  rw [← char_eq, String.utf8EncodeChar]
  change pieces .between ((if char.toNat ≤ 127 then _ else _) ++ rest) = _
  split
  · next ascii => exact pieces_of_single rest ascii
  · next least =>
      split
      · next greatest => exact pieces_of_two rest (Nat.lt_of_not_le least) greatest
      · next least =>
          split
          · next greatest => exact pieces_of_three rest (Nat.lt_of_not_le least) greatest valid
          · next least => exact pieces_of_four rest (Nat.lt_of_not_le least) valid

/-! ### Texts -/

theorem pieces_encode (text : String) : pieces .between (encode text) = text.toList.map some := by
  rw [encode]
  induction text.toList with
  | nil => rfl
  | cons char rest ih => rw [List.flatMap_cons, pieces_encodeChar, ih, List.map_cons]

/-- A text is decoded as it was encoded. -/
theorem decode_encode (text : String) : decode (encode text) = text := by
  rw [decode, pieces_encode, List.map_map]
  have unchanged : (fun piece : Piece => piece.getD replacement) ∘ some = id := rfl
  rw [unchanged, List.map_id, String.ofList_toList]

theorem zero_ne_ofNat {value : Nat} (positive : 0 < value) (small : value < 256) :
    0 ≠ UInt8.ofNat value := by
  intro zero_eq
  have value_eq := congrArg UInt8.toNat zero_eq
  rw [UInt8.toNat_ofNat', Nat.mod_eq_of_lt small] at value_eq
  exact absurd value_eq.symm (Nat.ne_of_gt positive)

theorem zero_mem_encodeChar_iff {char : Char} :
    0 ∈ String.utf8EncodeChar char ↔ char = Char.ofNat 0 := by
  constructor
  · intro zero_mem
    have code_eq : char.toNat = 0 := by
      by_contra nonzero
      have positive : 0 < char.toNat := Nat.pos_of_ne_zero nonzero
      rw [String.utf8EncodeChar] at zero_mem
      change 0 ∈ (if char.toNat ≤ 127 then _ else _) at zero_mem
      split at zero_mem
      · exact zero_ne_ofNat positive (by omega) (List.mem_singleton.mp zero_mem)
      · -- Every byte of a longer form has its highest bit set.
        split at zero_mem
        · simp only [List.mem_cons, List.not_mem_nil, or_false] at zero_mem
          rcases zero_mem with zero_eq | zero_eq <;>
            exact zero_ne_ofNat (by omega) (by omega) zero_eq
        · split at zero_mem
          · simp only [List.mem_cons, List.not_mem_nil, or_false] at zero_mem
            rcases zero_mem with zero_eq | zero_eq | zero_eq <;>
              exact zero_ne_ofNat (by omega) (by omega) zero_eq
          · simp only [List.mem_cons, List.not_mem_nil, or_false] at zero_mem
            rcases zero_mem with zero_eq | zero_eq | zero_eq | zero_eq <;>
              exact zero_ne_ofNat (by omega) (by omega) zero_eq
    rw [← Char.ofNat_toNat char, code_eq]
  · rintro rfl
    decide

/-- A text has a zero byte only where it has the zero character. -/
theorem zero_mem_encode_iff {text : String} : 0 ∈ encode text ↔ Char.ofNat 0 ∈ text.toList := by
  rw [encode, List.mem_flatMap]
  simp only [zero_mem_encodeChar_iff, exists_eq_right]

/-! ### Texts up to the first zero -/

/-- The text in front of its first zero character. -/
def untilZero (text : String) : String :=
  String.ofList (text.toList.takeWhile (· ≠ Char.ofNat 0))

theorem untilZero_eq_self_iff {text : String} :
    untilZero text = text ↔ Char.ofNat 0 ∉ text.toList := by
  rw [untilZero, ← String.toList_inj, String.toList_ofList, List.takeWhile_eq_self_iff]
  constructor
  · intro all_nonzero zero_mem
    simpa using all_nonzero _ zero_mem
  · intro zero_free char char_mem
    simpa using fun is_zero : char = Char.ofNat 0 => zero_free (is_zero ▸ char_mem)

theorem takeWhile_append_of_zero_free {front : List UInt8} (zero_free : 0 ∉ front)
    (back : List UInt8) :
    (front ++ back).takeWhile (· ≠ 0) = front ++ back.takeWhile (· ≠ 0) := by
  apply List.takeWhile_append_of_pos
  intro byte byte_mem
  simpa using fun is_zero : byte = 0 => zero_free (is_zero ▸ byte_mem)

theorem takeWhile_append_zero {front : List UInt8} (zero_free : 0 ∉ front) (rest : List UInt8) :
    (front ++ 0 :: rest).takeWhile (· ≠ 0) = front := by
  rw [takeWhile_append_of_zero_free zero_free, List.takeWhile_cons_of_neg (by simp),
    List.append_nil]

theorem zero_not_mem_takeWhile (bytes : List UInt8) : 0 ∉ bytes.takeWhile (· ≠ 0) := by
  intro zero_mem
  simpa using List.mem_takeWhile_imp zero_mem

/-- The first zero byte behind the beginning of a text is where the text has its first zero
character, or else behind the whole text. -/
theorem takeWhile_encode (text : String) {tail : List UInt8}
    (ends : tail = [] ∨ ∃ rest, tail = 0 :: rest) :
    (encode text ++ tail).takeWhile (· ≠ 0) = encode (untilZero text) := by
  rw [encode, encode, untilZero, String.toList_ofList]
  induction text.toList with
  | nil => rcases ends with rfl | ⟨rest, rfl⟩ <;> rfl
  | cons char others ih =>
      rw [List.flatMap_cons, List.append_assoc, List.takeWhile_cons]
      by_cases is_zero : char = Char.ofNat 0
      · rw [is_zero]
        rfl
      · have zero_free : 0 ∉ String.utf8EncodeChar char := mt zero_mem_encodeChar_iff.mp is_zero
        rw [takeWhile_append_of_zero_free zero_free, ih, if_pos (by simpa using is_zero),
          List.flatMap_cons]

theorem decodeUntilZero_encode (text : String) {tail : List UInt8}
    (ends : tail = [] ∨ ∃ rest, tail = 0 :: rest) :
    decodeUntilZero (encode text ++ tail) = untilZero text := by
  rw [decodeUntilZero, takeWhile_encode text ends, decode_encode]

section

variable {front : List UInt8} (zero_free : 0 ∉ front)

include zero_free

theorem decodeUntilZero_of_zero_free : decodeUntilZero front = decode front := by
  have whole := takeWhile_append_of_zero_free zero_free []
  rw [List.append_nil, List.takeWhile_nil, List.append_nil] at whole
  rw [decodeUntilZero, whole]

theorem decodeUntilZero_append_zero (rest : List UInt8) :
    decodeUntilZero (front ++ 0 :: rest) = decode front := by
  rw [decodeUntilZero, takeWhile_append_zero zero_free]

end

end Presence.Utf8
