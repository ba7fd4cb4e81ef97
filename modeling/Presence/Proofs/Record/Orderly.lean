import Presence.Proofs.Record.RoundTrip

/-!
# Orderly readers

A reader is `Orderly` if it looks at nothing behind what it reads, never loses count of the bytes of
the payload, and reports exactly what is missing. All readers of records are put together from
orderly ones. It follows that a record which has been cut short is never taken for a whole one,
`Reader.Orderly.fails_on_cut`.
-/

namespace Presence

/-- The length of the whole payload, of which a part has been read. -/
def Cursor.extent (cursor : Cursor) : Nat := cursor.position + cursor.remaining

/-- A shortfall is exact if the payload has the given length and ends within the field. -/
structure Shortfall.Exact (extent : Nat) (shortfall : Shortfall) : Prop where
  ends : shortfall.offset + shortfall.available = extent
  lacks : shortfall.available < shortfall.needed

namespace Reader

variable {α β : Type}

/-- What a reader finds does not depend on what follows, it stays within the payload, and it fails
only for want of bytes. -/
structure Orderly (reader : Reader α) : Prop where
  extend : ∀ {cursor reached value}, reader.readAt cursor = (.ok value, reached) → ∀ rest,
    reader.readAt { cursor with unread := cursor.unread ++ rest } =
      (.ok value, { reached with unread := reached.unread ++ rest })
  extent_eq : ∀ {cursor result reached}, reader.readAt cursor = (result, reached) →
    reached.extent = cursor.extent
  exact : ∀ {cursor shortfall reached}, reader.readAt cursor = (.error shortfall, reached) →
    shortfall.Exact cursor.extent

theorem orderly_pure (value : α) : Orderly (pure value : Reader α) where
  extend := by
    intro cursor reached found reading rest
    rw [readAt_pure] at reading ⊢
    cases reading
    rfl
  extent_eq := by
    intro cursor result reached reading
    rw [readAt_pure] at reading
    cases reading
    rfl
  exact := by
    intro cursor shortfall reached reading
    rw [readAt_pure] at reading
    cases reading

theorem readAt_bind_error {reader : Reader α} {next : α → Reader β} {cursor reached : Cursor}
    {shortfall : Shortfall}
    (reading : (reader >>= next).readAt cursor = (.error shortfall, reached)) :
    reader.readAt cursor = (.error shortfall, reached) ∨
      ∃ first between, reader.readAt cursor = (.ok first, between) ∧
        (next first).readAt between = (.error shortfall, reached) := by
  rw [readAt_bind] at reading
  rcases readAt_eq : reader.readAt cursor with ⟨missing | first, between⟩
  · rw [readAt_eq] at reading
    cases reading
    exact .inl rfl
  · rw [readAt_eq] at reading
    exact .inr ⟨first, between, rfl, reading⟩

theorem Orderly.bind {reader : Reader α} {next : α → Reader β} (orderly : Orderly reader)
    (next_orderly : ∀ value, Orderly (next value)) : Orderly (reader >>= next) where
  extend := by
    intro cursor reached value reading rest
    rcases readAt_bind_ok reading with ⟨first, between, first_reading, second_reading⟩
    rw [readAt_bind, orderly.extend first_reading rest]
    exact (next_orderly first).extend second_reading rest
  extent_eq := by
    intro cursor result reached reading
    rw [readAt_bind] at reading
    rcases readAt_eq : reader.readAt cursor with ⟨missing | first, between⟩
    · rw [readAt_eq] at reading
      cases reading
      exact orderly.extent_eq readAt_eq
    · rw [readAt_eq] at reading
      exact ((next_orderly first).extent_eq reading).trans (orderly.extent_eq readAt_eq)
  exact := by
    intro cursor shortfall reached reading
    rcases readAt_bind_error reading with missing | ⟨first, between, first_reading, missing⟩
    · exact orderly.exact missing
    · rw [← orderly.extent_eq first_reading]
      exact (next_orderly first).exact missing

theorem Orderly.map {reader : Reader α} (orderly : Orderly reader) (change : α → β) :
    Orderly (change <$> reader) :=
  orderly.bind fun value => orderly_pure (change value)

theorem orderly_take (field : String) (count : Nat) : Orderly (take field count) where
  extend := by
    intro cursor reached value reading rest
    simp only [readAt, ExceptT.run, take] at reading ⊢
    split at reading
    · next enough =>
        cases reading
        have still_enough :
            count ≤ { cursor with unread := cursor.unread ++ rest : Cursor }.remaining := by
          simp only [Cursor.remaining, List.length_append] at enough ⊢
          omega
        rw [if_pos still_enough]
        simp only [Cursor.advance, List.take_append_of_le_length enough,
          List.drop_append_of_le_length enough]
    · cases reading
  extent_eq := by
    intro cursor result reached reading
    simp only [readAt, ExceptT.run, take] at reading
    split at reading
    · next enough =>
        cases reading
        simp only [Cursor.extent, Cursor.remaining, Cursor.advance, List.length_drop] at enough ⊢
        omega
    · cases reading
      rfl
  exact := by
    intro cursor shortfall reached reading
    simp only [readAt, ExceptT.run, take] at reading
    split at reading
    · cases reading
    · next scarce =>
        cases reading
        exact ⟨rfl, Nat.lt_of_not_le scarce⟩

theorem length_takeWhile_le (bytes : List UInt8) :
    (bytes.takeWhile (· ≠ 0)).length ≤ bytes.length :=
  (List.takeWhile_prefix _).length_le

/-- The first zero byte is where it was, whatever is put behind it. -/
theorem takeWhile_append_of_length_lt {bytes : List UInt8} (rest : List UInt8)
    (ended : (bytes.takeWhile (· ≠ 0)).length < bytes.length) :
    (bytes ++ rest).takeWhile (· ≠ 0) = bytes.takeWhile (· ≠ 0) := by
  rw [List.takeWhile_append, if_neg (Nat.ne_of_lt ended)]

theorem orderly_text (field : String) : Orderly (text field) where
  extend := by
    intro cursor reached value reading rest
    simp only [readAt, ExceptT.run, text] at reading ⊢
    split at reading
    · next ended =>
        cases reading
        have still_ended : (cursor.unread.takeWhile (· ≠ 0)).length <
            { cursor with unread := cursor.unread ++ rest : Cursor }.remaining := by
          simp only [Cursor.remaining, List.length_append] at ended ⊢
          omega
        rw [takeWhile_append_of_length_lt rest ended, if_pos still_ended]
        simp only [Cursor.advance, List.take_append_of_le_length (Nat.le_of_lt ended),
          List.drop_append_of_le_length ended]
    · cases reading
  extent_eq := by
    intro cursor result reached reading
    simp only [readAt, ExceptT.run, text] at reading
    split at reading
    · next ended =>
        cases reading
        simp only [Cursor.extent, Cursor.remaining, Cursor.advance, List.length_drop] at ended ⊢
        omega
    · cases reading
      rfl
  exact := by
    intro cursor shortfall reached reading
    simp only [readAt, ExceptT.run, text] at reading
    split at reading
    · cases reading
    · next endless =>
        cases reading
        have length_le := length_takeWhile_le cursor.unread
        simp only [Cursor.remaining] at endless
        refine ⟨?_, Nat.lt_succ_self _⟩
        simp only [Cursor.extent, Cursor.remaining]
        omega

theorem orderly_skip (field : String) (count : Nat) : Orderly (skip field count) :=
  (orderly_take field count).map fun _ => ()

theorem orderly_word (field : String) (width : Nat) : Orderly (word field width) :=
  (orderly_take field width).map Word.ofBytes

theorem orderly_uint64 (field : String) : Orderly (uint64 field) :=
  (orderly_word field 8).map UInt64.ofNat

theorem orderly_word32 (field : String) : Orderly (word32 field) :=
  (orderly_word field 4).map (BitVec.ofNat 32)

theorem orderly_int32 (field : String) : Orderly (int32 field) :=
  (orderly_word32 field).map Int32.ofBitVec

/-- Bytes that have been cut short are not read as what they were. -/
theorem Orderly.fails_on_cut {reader : Reader α} {bytes cut : List UInt8} {value : α}
    (orderly : Orderly reader) (reads : Reads reader bytes value) (cut_front : cut <+: bytes)
    (shorter : cut.length < bytes.length) (position : Nat) :
    ∃ shortfall reached,
      reader.readAt { unread := cut, position } = (.error shortfall, reached) := by
  rcases readAt_eq : reader.readAt { unread := cut, position } with ⟨shortfall | found, reached⟩
  · exact ⟨shortfall, reached, rfl⟩
  · -- The whole bytes would be read without the bytes that were cut off.
    obtain ⟨lost, bytes_eq⟩ := cut_front
    have extended := orderly.extend readAt_eq lost
    have whole := reads [] position
    rw [List.append_nil, ← bytes_eq] at whole
    simp only [whole, Prod.mk.injEq, Cursor.mk.injEq, List.nil_eq, List.append_eq_nil_iff]
      at extended
    obtain ⟨-, ⟨-, lost_nil⟩, -⟩ := extended
    rw [← bytes_eq, lost_nil, List.append_nil] at shorter
    exact absurd shorter (Nat.lt_irrefl _)

end Reader

/-! ### Records -/

theorem Member.orderly_read : Reader.Orderly Member.read := by
  apply (Reader.orderly_text _).bind; intro _
  apply (Reader.orderly_skip _ _).bind; intro _
  apply (Reader.orderly_text _).bind; intro _
  apply (Reader.orderly_uint64 _).bind; intro _
  apply (Reader.orderly_skip _ _).bind; intro _
  apply (Reader.orderly_text _).bind; intro _
  apply (Reader.orderly_word32 _).bind; intro _
  apply (Reader.orderly_skip _ _).bind; intro _
  apply (Reader.orderly_text _).bind; intro _
  apply (Reader.orderly_word32 _).bind; intro _
  exact Reader.orderly_pure _

namespace Roster

theorem orderly_readName : Reader.Orderly readName := by
  apply (Reader.orderly_text _).bind; intro _
  apply (Reader.orderly_skip _ _).bind; intro _
  exact Reader.orderly_pure _

theorem orderly_readMember : Reader.Orderly readMember := by
  apply Member.orderly_read.bind; intro _
  apply (Reader.orderly_skip _ _).bind; intro _
  exact Reader.orderly_pure _

theorem exact_of_ofBytes {payload : List UInt8} {count : Nat} {shortfall : Shortfall}
    (unopened : ofBytes payload count = .error shortfall) : shortfall.Exact payload.length := by
  have extent_eq : ({ unread := payload } : Cursor).extent = payload.length := Nat.zero_add _
  rcases readAt_eq : readName.readAt { unread := payload } with ⟨missing | name, reached⟩
  · simp only [ofBytes, readAt_eq] at unopened
    cases unopened
    rw [← extent_eq]
    exact orderly_readName.exact readAt_eq
  · simp only [ofBytes, readAt_eq] at unopened
    cases unopened

end Roster

namespace StateChange

theorem orderly_readMember (kind : Wire MemberChange) : Reader.Orderly (readMember kind) := by
  simp only [readMember]
  split
  · apply (Reader.orderly_skip _ _).bind; intro _
    exact Member.orderly_read.map some
  · exact Reader.orderly_pure none

theorem orderly_read : Reader.Orderly read := by
  apply (Reader.orderly_uint64 _).bind; intro _
  apply (Reader.orderly_int32 _).bind; intro code
  apply (Reader.orderly_uint64 _).bind; intro _
  apply (orderly_readMember (.ofCode code)).bind; intro _
  exact Reader.orderly_pure _

theorem exact_of_ofBytes {payload : List UInt8} {shortfall : Shortfall}
    (unread : ofBytes payload = .error shortfall) : shortfall.Exact payload.length := by
  have extent_eq : ({ unread := payload } : Cursor).extent = payload.length := Nat.zero_add _
  rcases readAt_eq : read.readAt { unread := payload } with ⟨result, reached⟩
  have result_eq : result = .error shortfall := by rw [← unread, ofBytes, readAt_eq]
  rw [result_eq] at readAt_eq
  rw [← extent_eq]
  exact orderly_read.exact readAt_eq

end StateChange

end Presence
