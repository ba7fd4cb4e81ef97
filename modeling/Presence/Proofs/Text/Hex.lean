import Presence.Text.Hex

/-!
# Hexadecimal text read back

Bytes are read back from their digits, `Hex.bytes?_ofBytes`, and a number from its numeral,
`Hex.number?_numeral`. Both rest on the sixteen digits alone: each of them has the value that it was
written for, `Hex.value?_digit`.
-/

namespace Presence.Hex

theorem value?_digit {value : Nat} (small : value < 16) : value? (digit value) = some value := by
  revert value
  decide

theorem utf8Size_digit {value : Nat} (small : value < 16) : (digit value).utf8Size = 1 := by
  revert value
  decide

theorem digit_eq_zero_iff {value : Nat} (small : value < 16) : digit value = '0' ↔ value = 0 := by
  revert value
  decide

theorem digit_lowercase {value : Nat} (small : value < 16) :
    ('0' ≤ digit value ∧ digit value ≤ '9') ∨ ('a' ≤ digit value ∧ digit value ≤ 'f') := by
  revert value
  decide

/-! ### Bytes -/

theorem ofBytes_cons (byte : UInt8) (rest : List UInt8) :
    ofBytes (byte :: rest) =
      digit (byte.toNat / 16) :: digit (byte.toNat % 16) :: ofBytes rest := rfl

theorem ofBytes_append (first second : List UInt8) :
    ofBytes (first ++ second) = ofBytes first ++ ofBytes second :=
  List.flatMap_append

theorem mem_ofBytes {bytes : List UInt8} {char : Char} (char_mem : char ∈ ofBytes bytes) :
    ∃ value < 16, char = digit value := by
  rcases List.mem_flatMap.mp char_mem with ⟨byte, _, char_mem⟩
  simp only [List.mem_cons, List.not_mem_nil, or_false] at char_mem
  rcases char_mem with rfl | rfl
  · exact ⟨byte.toNat / 16, by have := byte.toNat_lt; omega, rfl⟩
  · exact ⟨byte.toNat % 16, Nat.mod_lt _ (by decide), rfl⟩

theorem length_ofBytes (bytes : List UInt8) : (ofBytes bytes).length = 2 * bytes.length := by
  induction bytes with
  | nil => rfl
  | cons byte rest ih =>
      simp only [ofBytes_cons, List.length_cons, ih]
      omega

/-- All digits are zero exactly if all bytes are. -/
theorem ofBytes_eq_zeros_iff (bytes : List UInt8) :
    ofBytes bytes = List.replicate (2 * bytes.length) '0' ↔ ∀ byte ∈ bytes, byte = 0 := by
  induction bytes with
  | nil => simp [ofBytes]
  | cons byte rest ih =>
      have high_small : byte.toNat / 16 < 16 := by have := byte.toNat_lt; omega
      have low_small : byte.toNat % 16 < 16 := Nat.mod_lt _ (by decide)
      have byte_zero : byte.toNat / 16 = 0 ∧ byte.toNat % 16 = 0 ↔ byte = 0 := by
        rw [← UInt8.toNat_inj, UInt8.toNat_zero]
        omega
      have length_eq : 2 * (byte :: rest).length = 2 * rest.length + 1 + 1 := by
        simp only [List.length_cons]; omega
      rw [length_eq, List.replicate_succ, List.replicate_succ, List.forall_mem_cons, ← byte_zero,
        ← ih]
      simp only [ofBytes_cons, List.cons.injEq, digit_eq_zero_iff high_small,
        digit_eq_zero_iff low_small, and_assoc]

theorem utf8ByteSize_ofBytes (bytes : List UInt8) :
    (String.ofList (ofBytes bytes)).utf8ByteSize = 2 * bytes.length := by
  induction bytes with
  | nil => rfl
  | cons byte rest ih =>
      have high_small : byte.toNat / 16 < 16 := by have := byte.toNat_lt; omega
      have high_size := utf8Size_digit high_small
      have low_size := utf8Size_digit (Nat.mod_lt byte.toNat (by decide : 0 < 16))
      simp only [ofBytes_cons, String.ofList_cons, String.utf8ByteSize_append,
        String.utf8ByteSize_singleton, ih, high_size, low_size, List.length_cons]
      omega

theorem bytes?_ofBytes (bytes : List UInt8) : bytes? (ofBytes bytes) = some bytes := by
  induction bytes with
  | nil => rfl
  | cons byte rest ih =>
      have byte_lt := byte.toNat_lt
      have high_eq := value?_digit (show byte.toNat / 16 < 16 by omega)
      have low_eq := value?_digit (show byte.toNat % 16 < 16 by omega)
      have halves : 16 * (byte.toNat / 16) + byte.toNat % 16 = byte.toNat := by omega
      simp only [ofBytes_cons, bytes?, high_eq, low_eq, ih, Option.bind_eq_bind, Option.bind_some,
        halves, UInt8.ofNat_toNat, Option.pure_def]

theorem ofBytes_inj {first second : List UInt8} :
    ofBytes first = ofBytes second ↔ first = second := by
  constructor
  · intro digits_eq
    have read_eq := congrArg bytes? digits_eq
    simp only [bytes?_ofBytes, Option.some.injEq] at read_eq
    exact read_eq
  · intro bytes_eq
    rw [bytes_eq]

/-! ### Numerals -/

theorem mem_numeral {number : Nat} {char : Char} (char_mem : char ∈ numeral number) :
    ∃ value < 16, char = digit value := by
  fun_induction numeral number with
  | case1 number small =>
      rw [List.mem_singleton] at char_mem
      exact ⟨number, small, char_mem⟩
  | case2 number large ih =>
      rw [List.mem_append, List.mem_singleton] at char_mem
      rcases char_mem with in_front | is_last
      · exact ih in_front
      · exact ⟨number % 16, Nat.mod_lt _ (by decide), is_last⟩

theorem numeral_ne_nil (number : Nat) : numeral number ≠ [] := by
  rw [numeral]
  split <;> simp

theorem extend?_append (high : Nat) (front back : List Char) :
    extend? high (front ++ back) = (extend? high front).bind fun value => extend? value back := by
  induction front generalizing high with
  | nil => rfl
  | cons char rest ih =>
      simp only [List.cons_append, extend?, Option.bind_assoc, ih]

theorem extend?_numeral (number : Nat) : extend? 0 (numeral number) = some number := by
  fun_induction numeral number with
  | case1 number small => simp [extend?, value?_digit small]
  | case2 number large ih =>
      have last_eq := value?_digit (Nat.mod_lt number (by decide : 0 < 16))
      simp only [extend?_append, ih, Option.bind_some, extend?, last_eq, Nat.div_add_mod]

theorem number?_numeral (number : Nat) : number? (numeral number) = some number := by
  rw [number?]
  · exact extend?_numeral number
  · exact numeral_ne_nil number

end Presence.Hex
