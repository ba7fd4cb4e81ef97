import Presence.Proofs.Record.Grammar

/-!
# Asking for the members of a roster

A roster is asked for one member after another. `Roster.Yields` says what it gives until it has
nothing more to give: the members announced, or fewer of them and then a failure. Every member takes
some bytes of the payload, so a roster ends soon after its payload does, however many members are
announced, `Roster.bounded_iteration`.
-/

namespace Presence

theorem Member.Grammar.length_ge {bytes : List UInt8} {member : Member}
    (is_record : Member.Grammar bytes member) : 23 ≤ bytes.length := by
  cases is_record
  simp only [Member.fields, List.length_append, List.length_singleton, Word.length_bytes]
  omega

namespace Roster

/-- Asks for the next member. At the end of the roster there is nothing to give and nothing to
change. -/
def ask (roster : Roster) : Option (Except Shortfall Member) × Roster :=
  match roster.next? with
  | some (item, rest) => (some item, rest)
  | none => (none, roster)

/-- The roster after somebody has asked `count` times. -/
def after (roster : Roster) : (count : Nat) → Roster
  | 0 => roster
  | count + 1 => after roster.ask.2 count

/-- What the roster gives to somebody who has already asked `index` times. -/
def answer? (roster : Roster) (index : Nat) : Option (Except Shortfall Member) :=
  (roster.after index).ask.1

theorem answer?_succ (roster : Roster) (index : Nat) :
    roster.answer? (index + 1) = roster.ask.2.answer? index := rfl

/-! ### Single members -/

/-- At the end of the roster one gets nothing, however often one asks. -/
theorem after_of_end (cursor : Cursor) (count : Nat) :
    after { cursor, left := 0 } count = { cursor, left := 0 } := by
  induction count with
  | zero => rfl
  | succ count ih => exact ih

theorem answer?_of_end (cursor : Cursor) (index : Nat) :
    answer? { cursor, left := 0 } index = none := by
  rw [answer?, after_of_end]
  rfl

section

variable {cursor reached : Cursor} {member : Member} {shortfall : Shortfall}

theorem ask_of_member (reading : readMember.readAt cursor = (.ok member, reached)) (left : Nat) :
    ask { cursor, left := left + 1 } = (some (.ok member), { cursor := reached, left }) := by
  simp only [ask, next?, reading]

theorem ask_of_failure (reading : readMember.readAt cursor = (.error shortfall, reached))
    (left : Nat) :
    ask { cursor, left := left + 1 } =
      (some (.error shortfall), { cursor := reached, left := 0 }) := by
  simp only [ask, next?, reading]

/-- A record does not count as a member unless the bytes that follow it are complete. -/
theorem readMember_of_short_padding (reading : Member.read.readAt cursor = (.ok member, reached))
    (short : reached.remaining < paddingLength) :
    readMember.readAt cursor =
      (.error ⟨"roster entry padding", reached.position, paddingLength, reached.remaining⟩,
        reached) := by
  have skipping : (Reader.skip "roster entry padding" paddingLength).readAt reached =
      (.error ⟨"roster entry padding", reached.position, paddingLength, reached.remaining⟩,
        reached) := by
    have taking : (Reader.take "roster entry padding" paddingLength).readAt reached =
        (.error ⟨"roster entry padding", reached.position, paddingLength, reached.remaining⟩,
          reached) := if_neg (Nat.not_le_of_lt short)
    rw [Reader.skip, Reader.readAt_bind, taking]
  rw [readMember, Reader.readAt_bind, reading]
  simp only
  rw [Reader.readAt_bind, skipping]

end

/-- A member of a roster takes 29 bytes at the least. -/
theorem remaining_ge_of_readMember {cursor reached : Cursor} {member : Member}
    (reading : readMember.readAt cursor = (.ok member, reached)) :
    29 + reached.remaining ≤ cursor.remaining := by
  rcases Member.recognizes_read.of_bind reading with
    ⟨record, _, between, is_record, record_passes, reading⟩
  rcases (Reader.recognizes_skip _ _).of_bind reading with
    ⟨padding, _, _, padding_length, padding_passes, reading⟩
  cases reading
  have record_length := is_record.length_ge
  have length_eq := congrArg List.length (record_passes.trans padding_passes).unread_eq
  simp only [List.length_append, padding_length, paddingLength] at length_eq
  simp only [Cursor.remaining]
  omega

/-! ### What a roster yields -/

/-- A roster yields some members and then has nothing more to give, or fails. -/
inductive Yields : Roster → List Member → Option Shortfall → Prop where
  | done (cursor : Cursor) : Yields { cursor, left := 0 } [] none
  | member {cursor reached : Cursor} {member : Member} {left : Nat} {others : List Member}
      {failure : Option Shortfall} (reading : readMember.readAt cursor = (.ok member, reached))
      (rest : Yields { cursor := reached, left } others failure) :
      Yields { cursor, left := left + 1 } (member :: others) failure
  | failure {cursor reached : Cursor} {shortfall : Shortfall} (left : Nat)
      (reading : readMember.readAt cursor = (.error shortfall, reached)) :
      Yields { cursor, left := left + 1 } [] (some shortfall)

/-- Every roster yields its members and what is missing of the first incomplete one. -/
theorem yields (roster : Roster) : roster.Yields roster.members roster.shortfall? := by
  obtain ⟨cursor, left⟩ := roster
  induction left generalizing cursor with
  | zero => exact .done cursor
  | succ left ih =>
      rcases readAt_eq : readMember.readAt cursor with ⟨shortfall | member, reached⟩
      · have items_eq : items { cursor, left := left + 1 } =
            [(.error shortfall, { cursor := reached, left := 0 })] := by
          simp only [items, itemsAt, readAt_eq]
        have members_eq : members { cursor, left := left + 1 } = [] := by
          rw [members, items_eq]
          rfl
        have shortfall_eq : shortfall? { cursor, left := left + 1 } = some shortfall := by
          rw [shortfall?, items_eq]
          rfl
        rw [members_eq, shortfall_eq]
        exact .failure left readAt_eq
      · have items_eq : items { cursor, left := left + 1 } =
            (.ok member, { cursor := reached, left }) :: items { cursor := reached, left } := by
          simp only [items, itemsAt, readAt_eq]
        have members_eq : members { cursor, left := left + 1 } =
            member :: members { cursor := reached, left } := by
          rw [members, items_eq]
          rfl
        have shortfall_eq : shortfall? { cursor, left := left + 1 } =
            shortfall? { cursor := reached, left } := by
          rw [shortfall?, items_eq]
          rfl
        rw [members_eq, shortfall_eq]
        exact .member readAt_eq (ih reached)

namespace Yields

variable {roster : Roster} {members : List Member} {failure : Option Shortfall}

/-- What one gets by asking again and again. -/
theorem answer?_eq (yields : roster.Yields members failure) (index : Nat) :
    roster.answer? index = (members.map .ok ++ failure.toList.map .error)[index]? := by
  induction yields generalizing index with
  | done cursor => exact answer?_of_end cursor index
  | member reading rest ih =>
      cases index with
      | zero =>
          rw [answer?, after, ask_of_member reading]
          rfl
      | succ index =>
          rw [answer?_succ, ask_of_member reading, ih]
          rfl
  | failure left reading =>
      cases index with
      | zero =>
          rw [answer?, after, ask_of_failure reading]
          rfl
      | succ index =>
          rw [answer?_succ, ask_of_failure reading, answer?_of_end]
          rfl

theorem length_le (yields : roster.Yields members failure) : members.length ≤ roster.left := by
  induction yields with
  | done cursor => exact Nat.le_refl 0
  | member reading rest ih => exact Nat.succ_le_succ ih
  | failure left reading => exact Nat.zero_le _

/-- A roster fails unless it gives as many members as announced. -/
theorem failure_eq_none_iff (yields : roster.Yields members failure) :
    failure = none ↔ members.length = roster.left := by
  induction yields with
  | done cursor => simp
  | member reading rest ih => rw [ih, List.length_cons, Nat.add_right_cancel_iff]
  | failure left reading => simp

theorem length_bounded (yields : roster.Yields members failure) :
    29 * members.length ≤ roster.cursor.remaining := by
  induction yields with
  | done cursor => exact Nat.zero_le _
  | member reading rest ih =>
      have member_size := remaining_ge_of_readMember reading
      simp only [List.length_cons] at ih ⊢
      omega
  | failure left reading => exact Nat.zero_le _

/-- The members left are counted down, and after a failure there are none. -/
theorem left_after (yields : roster.Yields members failure) (count : Nat) :
    (roster.after count).left = if count ≤ members.length then roster.left - count else 0 := by
  induction yields generalizing count with
  | done cursor => simp [after_of_end]
  | member reading rest ih =>
      cases count with
      | zero => rfl
      | succ count =>
          rw [after, ask_of_member reading, ih, List.length_cons]
          simp
  | failure left reading =>
      cases count with
      | zero => rfl
      | succ count =>
          rw [after, ask_of_failure reading, after_of_end]
          rfl

/-- Had fewer members been announced, there would have been fewer answers, but the same. -/
theorem answer?_of_fewer (yields : roster.Yields members failure) {fewer : Nat}
    (fewer_le : fewer ≤ roster.left) (index : Nat) :
    answer? { roster with left := fewer } index =
      if index < fewer then roster.answer? index else none := by
  induction yields generalizing fewer index with
  | done cursor =>
      rw [Nat.le_zero.mp fewer_le]
      exact answer?_of_end cursor index
  | @member cursor reached member left others failure reading rest ih =>
      cases fewer with
      | zero => exact answer?_of_end cursor index
      | succ fewer =>
          cases index with
          | zero =>
              simp only [answer?, after, ask_of_member reading]
              rfl
          | succ index =>
              simp only [answer?_succ, ask_of_member reading, Nat.add_lt_add_iff_right]
              exact ih (Nat.le_of_succ_le_succ fewer_le) index
  | @failure cursor reached shortfall left reading =>
      cases fewer with
      | zero => exact answer?_of_end cursor index
      | succ fewer =>
          cases index with
          | zero =>
              simp only [answer?, after, ask_of_failure reading]
              rfl
          | succ index => simp only [answer?_succ, ask_of_failure reading, answer?_of_end, ite_self]

/-- Whatever is missing of a roster is missing at the end of the payload. -/
theorem exact {shortfall : Shortfall} (yields : roster.Yields members failure)
    (failed : failure = some shortfall) : shortfall.Exact roster.cursor.extent := by
  induction yields with
  | done cursor => cases failed
  | member reading rest ih =>
      rw [← orderly_readMember.extent_eq reading]
      exact ih failed
  | failure left reading =>
      cases failed
      exact orderly_readMember.exact reading

end Yields

/-- A roster opens at the same place, whatever number of members is announced. -/
theorem ofBytes_eq_ok_iff {payload : List UInt8} {count : Nat} {name : String} {roster : Roster} :
    ofBytes payload count = .ok (name, roster) ↔
      ∃ cursor, readName.readAt { unread := payload } = (.ok name, cursor) ∧
        roster = { cursor, left := count } := by
  rcases readAt_eq : readName.readAt { unread := payload } with ⟨shortfall | found, cursor⟩
  · simp [ofBytes, readAt_eq]
  · simp [ofBytes, readAt_eq, eq_comm]

theorem exact_of_shortfall? {payload : List UInt8} {count : Nat} {name : String} {roster : Roster}
    {shortfall : Shortfall} (opened : ofBytes payload count = .ok (name, roster))
    (failed : roster.shortfall? = some shortfall) : shortfall.Exact payload.length := by
  obtain ⟨cursor, name_reading, rfl⟩ := ofBytes_eq_ok_iff.mp opened
  have extent_eq : ({ unread := payload } : Cursor).extent = payload.length := Nat.zero_add _
  rw [← extent_eq, ← orderly_readName.extent_eq name_reading]
  exact (yields { cursor, left := count }).exact failed

theorem shortfall?_of_answer? {roster : Roster} {index : Nat} {shortfall : Shortfall}
    (failed : roster.answer? index = some (.error shortfall)) :
    roster.shortfall? = some shortfall := by
  rw [roster.yields.answer?_eq] at failed
  simpa [eq_comm] using List.mem_of_getElem? failed

theorem remaining_ge_of_readName {cursor reached : Cursor} {name : String}
    (reading : readName.readAt cursor = (.ok name, reached)) :
    2 + reached.remaining ≤ cursor.remaining := by
  rcases (Reader.recognizes_text _).of_bind reading with
    ⟨_, _, between, ⟨text, _, rfl, _⟩, text_passes, reading⟩
  rcases (Reader.recognizes_skip _ _).of_bind reading with
    ⟨reserved, _, _, reserved_length, reserved_passes, reading⟩
  cases reading
  have length_eq := congrArg List.length (text_passes.trans reserved_passes).unread_eq
  simp only [List.length_append, List.length_singleton, reserved_length, Member.typeLength]
    at length_eq
  simp only [Cursor.remaining]
  omega

/-- The law of asking. A roster gives the members announced, or fewer of them and then a failure,
and from then on nothing. Since a member takes 29 bytes at the least, it ends soon after the
payload, however many members are announced. The members left are counted down, and after a failure
there are none. If fewer members are announced, the first answers are the same. A record whose
padding is incomplete is not a member but the failure. -/
theorem bounded_iteration {payload : List UInt8} {count : Nat} {name : String} {roster : Roster}
    (opened : ofBytes payload count = .ok (name, roster)) :
    let given := roster.members.length
    let most := (payload.length - 2) / 29
    (∀ index, roster.answer? index =
        (roster.members.map .ok ++ roster.shortfall?.toList.map .error)[index]?) ∧
      (roster.shortfall? = none ↔ given = count) ∧
      given ≤ min count most ∧
      (∀ index, most < index → roster.answer? index = none) ∧
      (∀ index, (roster.after index).left = if index ≤ given then count - index else 0) ∧
      (∀ fewer ≤ count, ∃ shorter, ofBytes payload fewer = .ok (name, shorter) ∧
        ∀ index, shorter.answer? index = if index < fewer then roster.answer? index else none) ∧
      ∀ index member reached, (roster.after index).left ≠ 0 →
        Member.read.readAt (roster.after index).cursor = (.ok member, reached) →
        reached.remaining < paddingLength →
        roster.answer? index = some (.error
          ⟨"roster entry padding", reached.position, paddingLength, reached.remaining⟩) := by
  intro given most
  obtain ⟨cursor, name_reading, rfl⟩ := ofBytes_eq_ok_iff.mp opened
  have yields := yields { cursor, left := count }
  have bound : given ≤ most := by
    have name_size := remaining_ge_of_readName name_reading
    have members_size := yields.length_bounded
    simp only [Cursor.remaining] at name_size members_size
    rw [Nat.le_div_iff_mul_le (by decide)]
    simp only [given]
    omega
  refine ⟨yields.answer?_eq, yields.failure_eq_none_iff, le_min yields.length_le bound, ?_,
    yields.left_after, ?_, ?_⟩
  · intro index late
    rw [yields.answer?_eq, List.getElem?_eq_none_iff]
    have failure_length : (shortfall? { cursor, left := count }).toList.length ≤ 1 := by
      cases shortfall? { cursor, left := count } <;> simp
    simp only [List.length_append, List.length_map]
    simp only [given] at bound
    omega
  · intro fewer fewer_le
    exact ⟨{ cursor, left := fewer }, ofBytes_eq_ok_iff.mpr ⟨cursor, name_reading, rfl⟩,
      yields.answer?_of_fewer fewer_le⟩
  · intro index member reached more reading short
    have broken := readMember_of_short_padding reading short
    obtain ⟨left, left_eq⟩ := Nat.exists_eq_succ_of_ne_zero more
    rw [answer?]
    generalize after { cursor, left := count } index = reached_roster at *
    obtain ⟨place, _⟩ := reached_roster
    cases left_eq
    rw [ask_of_failure broken]

/-- Far more members are announced than there are, and a byte of the second one's padding is
missing: the first member is given, then the failure, and nothing from then on. -/
theorem bounded_iteration_of_boundless_count :
    let guest : Entry :=
      { member := ⟨⟨5⟩, ⟨8⟩, ⟨0⟩⟩, padding := [0, 0, 0, 0, 0, 0], padding_length := rfl }
    let speaker : Member := ⟨⟨6⟩, ⟨8⟩, ⟨0⟩⟩
    let payload := payload [0x61] 0 [guest] (speaker.bytes ++ [1, 2, 3, 4, 5])
    ∃ roster, ofBytes payload 18446744073709551615 = .ok ("a", roster) ∧
      roster.answer? 0 = some (.ok guest.member) ∧
      roster.answer? 1 = some (.error ⟨"roster entry padding", 131, 6, 5⟩) ∧
      roster.answer? 2 = none ∧ (∀ index, 4 < index → roster.answer? index = none) ∧
      (roster.after 1).left = 18446744073709551614 ∧ (roster.after 2).left = 0 := by
  intro guest speaker payload
  let roster : Roster :=
    { cursor := { unread := payload.drop 3, position := 3 }, left := 18446744073709551615 }
  have opened : ofBytes payload 18446744073709551615 = .ok ("a", roster) := by
    decide +kernel
  have most_eq : (payload.length - 2) / 29 = 4 := by decide +kernel
  have first : roster.answer? 0 = some (.ok guest.member) := by decide +kernel
  have third : roster.answer? 2 = none := by decide +kernel
  have record : Member.read.readAt (roster.after 1).cursor =
      (.ok speaker, { unread := [1, 2, 3, 4, 5], position := 131 }) := by decide +kernel
  obtain ⟨-, -, -, ended, -, -, short_padding⟩ := bounded_iteration opened
  rw [most_eq] at ended
  have second : roster.answer? 1 = some (.error ⟨"roster entry padding", 131, 6, 5⟩) :=
    short_padding 1 speaker _ (by decide +kernel) record (by decide)
  exact ⟨roster, opened, first, second, third, ended, by decide +kernel, by decide +kernel⟩

end Roster

end Presence
