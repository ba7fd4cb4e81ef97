import Mathlib.Algebra.Group.Nat.Defs
import Presence.Proofs.Text.Utf8
import Presence.Record.Cursor

/-!
# What readers read

A reader `Reads` a value from some bytes when, wherever it finds them, it gives the value and stops
right behind them. Readers are put together in the same way as the bytes they read, so that every
record format needs one lemma that follows its definition field by field.

`Reader.readAt_bind_ok` is for the other direction: a compound reader succeeds only if its parts do.
-/

namespace Presence

namespace Word

@[simp]
theorem length_bytes (width number : Nat) : (bytes width number).length = width := by
  induction width generalizing number with
  | zero => rfl
  | succ width ih => rw [bytes, List.length_cons, ih]

theorem ofBytes_bytes (width number : Nat) :
    ofBytes (bytes width number) = number % 256 ^ width := by
  induction width generalizing number with
  | zero => simp [bytes, ofBytes, Nat.mod_one]
  | succ width ih =>
      have lowest : number % 2 ^ 8 = number % 256 := rfl
      rw [bytes, ofBytes, ih, UInt8.toNat_ofNat', lowest, Nat.pow_succ', Nat.mod_mul]

end Word

namespace Reader

variable {α β : Type}

theorem readAt_pure (value : α) (cursor : Cursor) :
    (pure value : Reader α).readAt cursor = (.ok value, cursor) := rfl

theorem readAt_bind (reader : Reader α) (next : α → Reader β) (cursor : Cursor) :
    (reader >>= next).readAt cursor =
      match reader.readAt cursor with
      | (.ok value, reached) => (next value).readAt reached
      | (.error shortfall, reached) => (.error shortfall, reached) := by
  have step : (reader >>= next).readAt cursor =
      match reader.readAt cursor with
      | (result, reached) => ExceptT.bindCont next result reached := rfl
  rw [step]
  rcases reader.readAt cursor with ⟨shortfall | value, reached⟩ <;> rfl

/-- A compound reader succeeds only if its parts succeed one after the other. -/
theorem readAt_bind_ok {reader : Reader α} {next : α → Reader β} {cursor reached : Cursor}
    {value : β} (reading : (reader >>= next).readAt cursor = (.ok value, reached)) :
    ∃ first between, reader.readAt cursor = (.ok first, between) ∧
      (next first).readAt between = (.ok value, reached) := by
  rw [readAt_bind] at reading
  rcases readAt_eq : reader.readAt cursor with ⟨first | first, between⟩
  · rw [readAt_eq] at reading
    cases reading
  · rw [readAt_eq] at reading
    exact ⟨first, between, rfl, reading⟩

/-- Wherever the reader finds the bytes it gives the value and stops right behind them. -/
def Reads (reader : Reader α) (bytes : List UInt8) (value : α) : Prop :=
  ∀ (rest : List UInt8) (position : Nat),
    reader.readAt { unread := bytes ++ rest, position } =
      (.ok value, { unread := rest, position := position + bytes.length })

theorem reads_pure (value : α) : Reads (pure value) [] value := by
  intro rest position
  rw [readAt_pure]
  rfl

theorem Reads.bind {reader : Reader α} {next : α → Reader β} {first second : List UInt8}
    {value : α} {result : β} (reads : Reads reader first value)
    (next_reads : Reads (next value) second result) :
    Reads (reader >>= next) (first ++ second) result := by
  intro rest position
  rw [readAt_bind, List.append_assoc, reads]
  simp only
  rw [next_reads, List.length_append, Nat.add_assoc]

theorem Reads.map {reader : Reader α} {bytes : List UInt8} {value : α}
    (reads : Reads reader bytes value) (change : α → β) :
    Reads (change <$> reader) bytes (change value) := by
  have map_reads : Reads (reader >>= fun value => pure (change value)) (bytes ++ [])
      (change value) := reads.bind (reads_pure (change value))
  rw [List.append_nil] at map_reads
  exact map_reads

theorem reads_take (field : String) (bytes : List UInt8) :
    Reads (take field bytes.length) bytes bytes := by
  intro rest position
  simp [readAt, ExceptT.run, take, Cursor.remaining, Cursor.advance]

theorem reads_skip (field : String) (bytes : List UInt8) :
    Reads (skip field bytes.length) bytes () := (reads_take field bytes).map fun _ => ()

theorem reads_word (field : String) (width number : Nat) :
    Reads (word field width) (Word.bytes width number) (number % 256 ^ width) := by
  have take_reads := reads_take field (Word.bytes width number)
  rw [Word.length_bytes] at take_reads
  rw [← Word.ofBytes_bytes]
  exact take_reads.map Word.ofBytes

theorem reads_uint64 (field : String) (number : UInt64) :
    Reads (uint64 field) (Word.bytes 8 number.toNat) number := by
  have word_reads := (reads_word field 8 number.toNat).map UInt64.ofNat
  rw [Nat.mod_eq_of_lt (by simpa using number.toNat_lt), UInt64.ofNat_toNat] at word_reads
  exact word_reads

theorem reads_word32 (field : String) (word : BitVec 32) :
    Reads (word32 field) (Word.bytes 4 word.toNat) word := by
  have word_reads := (reads_word field 4 word.toNat).map (BitVec.ofNat 32)
  rw [Nat.mod_eq_of_lt (by simpa using word.isLt), BitVec.ofNat_toNat,
    BitVec.setWidth_eq] at word_reads
  exact word_reads

theorem reads_int32 (field : String) (number : Int32) :
    Reads (int32 field) (Word.bytes 4 number.toBitVec.toNat) number :=
  (reads_word32 field number.toBitVec).map Int32.ofBitVec

theorem reads_text (field : String) {bytes : List UInt8} (zero_not_mem : 0 ∉ bytes) :
    Reads (text field) (bytes ++ [0]) (Utf8.decode bytes) := by
  intro rest position
  have before_zero : ((bytes ++ [0]) ++ rest).takeWhile (· ≠ 0) = bytes := by
    rw [List.append_assoc, List.singleton_append, Utf8.takeWhile_append_zero zero_not_mem]
  simp only [readAt, ExceptT.run, text, before_zero]
  rw [if_pos (by simp [Cursor.remaining])]
  simp [Cursor.advance, List.drop_append]

end Reader

end Presence
