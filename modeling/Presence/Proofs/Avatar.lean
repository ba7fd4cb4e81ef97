import Presence.Avatar
import Presence.Proofs.Text.Hex

/-!
# Fingerprints of digests

A fingerprint says all about its digest, and it is put together byte by byte,
`Avatar.faithful_fingerprints`. A digest stands for an avatar exactly if it has twenty bytes and not
all of them are zero, `Avatar.isPresent_fingerprint`. Its fingerprint is then forty digits that are
not all zero, `Avatar.isFingerprint_of_isPresent`.
-/

namespace Presence

namespace Avatar

theorem toList_fingerprint (digest : List UInt8) :
    (fingerprint digest).toList = Hex.ofBytes digest :=
  String.toList_ofList

theorem length_fingerprint (digest : List UInt8) :
    (fingerprint digest).length = 2 * digest.length := by
  rw [← String.length_toList, toList_fingerprint, Hex.length_ofBytes]

theorem lowercase_of_mem_fingerprint {digest : List UInt8} {char : Char}
    (char_mem : char ∈ (fingerprint digest).toList) :
    ('0' ≤ char ∧ char ≤ '9') ∨ ('a' ≤ char ∧ char ≤ 'f') := by
  rw [toList_fingerprint] at char_mem
  rcases Hex.mem_ofBytes char_mem with ⟨value, small, rfl⟩
  exact Hex.digit_lowercase small

theorem fingerprint_inj {first second : List UInt8} :
    fingerprint first = fingerprint second ↔ first = second := by
  rw [fingerprint, fingerprint, String.ofList_inj, Hex.ofBytes_inj]

theorem fingerprint_append (first second : List UInt8) :
    fingerprint (first ++ second) = fingerprint first ++ fingerprint second := by
  rw [fingerprint, Hex.ofBytes_append, String.ofList_append, fingerprint, fingerprint]

/-- A digest stands for an avatar if it has the right length and is not all zero. -/
theorem isPresent_fingerprint (digest : List UInt8) :
    isPresent (fingerprint digest) ↔ digest.length = 20 ∧ ∃ byte ∈ digest, byte ≠ 0 := by
  have size_eq : (fingerprint digest).utf8ByteSize = fingerprintLength ↔ digest.length = 20 := by
    rw [fingerprint, Hex.utf8ByteSize_ofBytes, fingerprintLength]
    omega
  simp only [isPresent, Bool.and_eq_true, decide_eq_true_eq, size_eq, ne_eq, decide_not,
    Bool.not_eq_true', decide_eq_false_iff_not]
  apply and_congr_right
  intro length_eq
  have zeros := Hex.ofBytes_eq_zeros_iff digest
  rw [length_eq] at zeros
  rw [fingerprint, blank, String.ofList_inj, fingerprintLength, zeros]
  simp

/-- A text that shows an avatar: forty digits, written with lowercase letters, that are not all
zero. -/
structure IsFingerprint (avatar : String) : Prop where
  length_eq : avatar.length = fingerprintLength
  lowercase : ∀ char ∈ avatar.toList, ('0' ≤ char ∧ char ≤ '9') ∨ ('a' ≤ char ∧ char ≤ 'f')
  not_blank : ∃ char ∈ avatar.toList, char ≠ '0'

theorem isFingerprint_of_isPresent {digest : List UInt8}
    (present : isPresent (fingerprint digest)) : IsFingerprint (fingerprint digest) := by
  have ⟨length_eq, byte, byte_mem, nonzero⟩ := (isPresent_fingerprint digest).mp present
  refine { length_eq := ?_, lowercase := ?_, not_blank := ?_ }
  · rw [length_fingerprint, length_eq, fingerprintLength]
  · intro char char_mem
    exact lowercase_of_mem_fingerprint char_mem
  · have not_blank : ¬ ∀ char ∈ Hex.ofBytes digest, char = '0' := by
      intro blank
      have zeros := List.eq_replicate_iff.mpr ⟨Hex.length_ofBytes digest, blank⟩
      exact nonzero ((Hex.ofBytes_eq_zeros_iff digest).mp zeros byte byte_mem)
    simpa [toList_fingerprint] using not_blank

/-- A fingerprint has two lowercase digits for every byte of its digest, and the bytes are read back
from them; so different digests have different fingerprints. Digests put together give the
fingerprints put together. A fingerprint shows an avatar exactly if its digest has twenty bytes and
one of them is not zero. -/
theorem faithful_fingerprints :
    (∀ digest : List UInt8,
      (fingerprint digest).length = 2 * digest.length ∧
        (∀ char ∈ (fingerprint digest).toList,
          ('0' ≤ char ∧ char ≤ '9') ∨ ('a' ≤ char ∧ char ≤ 'f')) ∧
        Hex.bytes? (fingerprint digest).toList = some digest) ∧
    (∀ first second : List UInt8, fingerprint first = fingerprint second ↔ first = second) ∧
    (∀ first second : List UInt8,
      fingerprint (first ++ second) = fingerprint first ++ fingerprint second) ∧
    ∀ digest : List UInt8,
      isPresent (fingerprint digest) ↔ digest.length = 20 ∧ ∃ byte ∈ digest, byte ≠ 0 := by
  refine ⟨?_, fun _ _ => fingerprint_inj, fingerprint_append, isPresent_fingerprint⟩
  intro digest
  refine ⟨length_fingerprint digest, fun _ => lowercase_of_mem_fingerprint, ?_⟩
  rw [toList_fingerprint, Hex.bytes?_ofBytes]

/-- A single bit in the last byte is enough for an avatar, and it is seen in the last digit. -/
theorem faithful_fingerprints_of_last_bit :
    let digest : List UInt8 := List.replicate 19 0 ++ [1]
    '1' ∈ (fingerprint digest).toList ∧
      (('0' ≤ '1' ∧ '1' ≤ '9') ∨ ('a' ≤ '1' ∧ '1' ≤ 'f')) ∧
      Hex.bytes? (fingerprint digest).toList = some digest ∧ isPresent (fingerprint digest) := by
  intro digest
  obtain ⟨digits, -, -, present_iff⟩ := faithful_fingerprints
  obtain ⟨-, lowercase, read_back⟩ := digits digest
  have one_mem : '1' ∈ (fingerprint digest).toList := by
    rw [toList_fingerprint]
    decide
  refine ⟨one_mem, lowercase '1' one_mem, read_back, ?_⟩
  exact (present_iff digest).mpr (by decide)

end Avatar

end Presence
