import Mathlib.Data.Nat.Digits.Defs
import Presence.Proofs.Record.Iteration
import Presence.Record.Walk

/-!
# The bookkeeping of walks

A cursor keeps the bytes that are still to be read and counts those that were read. However a
payload is explored, the two fit together: `Cursor.Within` is kept by every step of a walk. What a
single field takes and what is found in it is the `Field` of the step, and `Walk.step_of_field` says
that a step takes its field or nothing. A member record is ten fields one after another,
`Member.follows_layout`, so it goes wrong at the first of them that is incomplete.
-/

namespace Presence

/-! ### Places in a payload -/

/-- A cursor stands within a payload: the bytes that it has not read are the last ones. -/
structure Cursor.Within (payload : List UInt8) (cursor : Cursor) : Prop where
  unread_eq : cursor.unread = payload.drop cursor.position
  position_le : cursor.position ≤ payload.length

namespace Cursor.Within

variable {payload : List UInt8} {cursor : Cursor}

theorem front (payload : List UInt8) : Within payload { unread := payload } :=
  ⟨rfl, Nat.zero_le _⟩

theorem extent_eq (within : cursor.Within payload) : cursor.extent = payload.length := by
  have position_le := within.position_le
  simp only [extent, remaining, within.unread_eq, List.length_drop]
  omega

theorem advance (within : cursor.Within payload) {count : Nat}
    (enough : count ≤ cursor.remaining) : (cursor.advance count).Within payload where
  unread_eq := by
    simp only [Cursor.advance, within.unread_eq, List.drop_drop]
  position_le := by
    have extent_eq := within.extent_eq
    simp only [extent] at extent_eq
    simp only [Cursor.advance]
    omega

end Cursor.Within

/-- The number whose digits to the base 256 are the bytes, the lowest first. -/
theorem Word.ofBytes_eq_ofDigits (bytes : List UInt8) :
    ofBytes bytes = Nat.ofDigits 256 (bytes.map UInt8.toNat) := by
  induction bytes with
  | nil => rfl
  | cons byte rest ih =>
      rw [ofBytes, ih, List.map_cons, Nat.ofDigits_cons]

namespace Walk

/-! ### Single fields -/

/-- A field as it lies in a payload. -/
structure Field where
  name : String
  /-- The number of bytes that it takes in front of some bytes. -/
  width : List UInt8 → Nat
  /-- What is found in the bytes of the field. -/
  finding : List UInt8 → Finding

/-- The number that some bytes stand for, the lowest byte first. -/
def littleEndian (bytes : List UInt8) : Nat := Nat.ofDigits 256 (bytes.map UInt8.toNat)

/-- The field that a step reads, if it reads a single one. A text takes the bytes up to the first
zero byte, and that one too. -/
def Step.field? : Step → Option Field
  | .byte name => some {
      name
      width := fun _ => 1
      finding := fun bytes => .byte (UInt8.ofNat (littleEndian bytes)) }
  | .uint64 name => some {
      name
      width := fun _ => 8
      finding := fun bytes => .uint64 (UInt64.ofNat (littleEndian bytes)) }
  | .int32 name => some {
      name
      width := fun _ => 4
      finding := fun bytes => .int32 (Int32.ofNat (littleEndian bytes)) }
  | .text name => some {
      name
      width := fun unread => (unread.takeWhile (· ≠ 0)).length + 1
      finding := fun bytes => .text (Utf8.decode (bytes.takeWhile (· ≠ 0))) }
  | .skip name count => some {
      name
      width := fun _ => count
      finding := fun _ => .nothing }
  | .member | .mark | .back => none

theorem advance_take (walk : Walk) (name : String) (count : Nat) (finding : List UInt8 → Finding) :
    walk.advance (Reader.take name count) finding =
      if count ≤ walk.cursor.remaining then
        (.ok (finding (walk.cursor.unread.take count)),
          { walk with cursor := walk.cursor.advance count })
      else (.error ⟨name, walk.cursor.position, count, walk.cursor.remaining⟩, walk) := by
  simp only [advance, Reader.readAt, ExceptT.run, Reader.take]
  split <;> rfl

theorem advance_map {α β : Type} (walk : Walk) (reader : Reader α) (change : α → β)
    (finding : β → Finding) :
    walk.advance (change <$> reader) finding =
      walk.advance reader fun value => finding (change value) := by
  have readAt_map := Reader.readAt_bind reader (fun value => pure (change value)) walk.cursor
  rw [bind_pure_comp] at readAt_map
  simp only [advance, readAt_map]
  rcases reader.readAt walk.cursor with ⟨shortfall | value, reached⟩ <;> rfl

theorem advance_word (walk : Walk) (name : String) (width : Nat) (finding : Nat → Finding) :
    walk.advance (Reader.word name width) finding =
      if width ≤ walk.cursor.remaining then
        (.ok (finding (littleEndian (walk.cursor.unread.take width))),
          { walk with cursor := walk.cursor.advance width })
      else (.error ⟨name, walk.cursor.position, width, walk.cursor.remaining⟩, walk) := by
  simp only [Reader.word, advance_map, advance_take, Word.ofBytes_eq_ofDigits, littleEndian]

theorem advance_text (walk : Walk) (name : String) :
    walk.advance (Reader.text name) .text =
      let width := (walk.cursor.unread.takeWhile (· ≠ 0)).length + 1
      if width ≤ walk.cursor.remaining then
        (.ok (.text (Utf8.decode ((walk.cursor.unread.take width).takeWhile (· ≠ 0)))),
          { walk with cursor := walk.cursor.advance width })
      else (.error ⟨name, walk.cursor.position, width, walk.cursor.remaining⟩, walk) := by
  obtain ⟨cursor, marked⟩ := walk
  have length_le := Reader.length_takeWhile_le cursor.unread
  simp only [advance, Reader.readAt, ExceptT.run, Reader.text]
  by_cases ended : (cursor.unread.takeWhile (· ≠ 0)).length < cursor.remaining
  · rw [if_pos ended, if_pos (Nat.succ_le_of_lt ended)]
    obtain ⟨rest, unread_eq⟩ := Reader.exists_zero_behind ended
    have zero_not_mem := Utf8.zero_not_mem_takeWhile cursor.unread
    generalize cursor.unread.takeWhile (· ≠ 0) = before at *
    have take_eq : cursor.unread.take (before.length + 1) = before ++ [0] := by
      rw [unread_eq, List.append_cons, List.take_left' (by simp)]
    rw [take_eq, Utf8.takeWhile_append_zero zero_not_mem, unread_eq, List.take_left]
    rfl
  · have length_eq : (cursor.unread.takeWhile (· ≠ 0)).length = cursor.remaining :=
      Nat.le_antisymm length_le (Nat.le_of_not_lt ended)
    rw [if_neg ended, if_neg (fun enough => ended (Nat.lt_of_succ_le enough)), length_eq]
    rfl

/-- A step that reads a single field takes the bytes of the field, or fails and takes nothing. -/
theorem step_of_field {step : Step} {field : Field} (reads : step.field? = some field)
    (walk : Walk) :
    walk.step step =
      let width := field.width walk.cursor.unread
      if width ≤ walk.cursor.remaining then
        (.ok (field.finding (walk.cursor.unread.take width)),
          { walk with cursor := walk.cursor.advance width })
      else (.error ⟨field.name, walk.cursor.position, width, walk.cursor.remaining⟩, walk) := by
  cases step with
  | byte name =>
      cases reads
      exact (advance_map ..).trans (advance_word ..)
  | uint64 name =>
      cases reads
      exact (advance_map ..).trans (advance_word ..)
  | int32 name =>
      cases reads
      exact (advance_map ..).trans ((advance_map ..).trans (advance_word ..))
  | text name =>
      cases reads
      exact advance_text walk name
  | skip name count =>
      cases reads
      exact (advance_map ..).trans (advance_take ..)
  | member => cases reads
  | mark => cases reads
  | back => cases reads

/-! ### Several fields -/

/-- Makes several steps, up to the first that fails. -/
def makeAll (walk : Walk) : List Step → Except Shortfall Unit × Walk
  | [] => (.ok (), walk)
  | step :: rest =>
      match walk.step step with
      | (.ok _, reached) => makeAll reached rest
      | (.error shortfall, reached) => (.error shortfall, reached)

variable {walk reached : Walk} {steps : List Step} {shortfall : Shortfall}

/-- Several steps fail at the first of them that fails. -/
theorem exists_failed_step (failed : walk.makeAll steps = (.error shortfall, reached)) :
    ∃ front step rest before, steps = front ++ step :: rest ∧
      walk.makeAll front = (.ok (), before) ∧ before.step step = (.error shortfall, reached) := by
  induction steps generalizing walk with
  | nil => cases failed
  | cons step rest ih =>
      rcases step_eq : walk.step step with ⟨missing | finding, next⟩
      · simp only [makeAll, step_eq] at failed
        cases failed
        exact ⟨[], step, rest, walk, rfl, rfl, step_eq⟩
      · simp only [makeAll, step_eq] at failed
        rcases ih failed with ⟨front, last, others, before, rfl, front_eq, last_eq⟩
        refine ⟨step :: front, last, others, before, rfl, ?_, last_eq⟩
        simp only [makeAll, step_eq, front_eq]

/-- A reader follows some steps: it succeeds if they all do, fails as the first of them that fails,
and stops where they stop. -/
def Follows {α : Type} (reader : Reader α) (steps : List Step) : Prop :=
  ∀ walk : Walk, walk.makeAll steps = (fun (result, reached) =>
    (result.map fun _ => (), { walk with cursor := reached })) (reader.readAt walk.cursor)

variable {α β : Type}

theorem follows_pure (value : α) : Follows (pure value) [] := fun _ => rfl

theorem Follows.bind {first : Reader α} {next : α → Reader β} {step : Step}
    {finding : α → Finding} {rest : List Step}
    (first_step : ∀ walk : Walk, walk.step step = walk.advance first finding)
    (follows : ∀ value, Follows (next value) rest) : Follows (first >>= next) (step :: rest) := by
  intro walk
  rw [makeAll, first_step, advance, Reader.readAt_bind]
  rcases first.readAt walk.cursor with ⟨shortfall | value, reached⟩
  · rfl
  · exact follows value { walk with cursor := reached }

/-! ### Walks -/

/-- The walk after some steps, whatever they find. -/
def after (walk : Walk) (steps : List Step) : Walk :=
  steps.foldl (fun walk step => (walk.step step).2) walk

/-- Both places of a walk are within a payload. -/
structure Within (payload : List UInt8) (walk : Walk) : Prop where
  cursor : walk.cursor.Within payload
  marked : walk.marked.Within payload

namespace Within

variable {payload : List UInt8}

theorem step_of_field (within : walk.Within payload) {step : Step} {field : Field}
    (reads : step.field? = some field) : (walk.step step).2.Within payload := by
  rw [Walk.step_of_field reads]
  simp only
  split
  · next enough => exact ⟨within.cursor.advance enough, within.marked⟩
  · exact within

theorem makeAll (within : walk.Within payload)
    (all_read : ∀ step ∈ steps, ∃ field, step.field? = some field) :
    (walk.makeAll steps).2.Within payload := by
  induction steps generalizing walk with
  | nil => exact within
  | cons step rest ih =>
      rw [List.forall_mem_cons] at all_read
      obtain ⟨⟨field, reads⟩, rest_read⟩ := all_read
      have step_within := within.step_of_field reads
      rw [Walk.makeAll]
      split
      · next step_eq =>
          rw [step_eq] at step_within
          exact ih step_within rest_read
      · next step_eq =>
          rw [step_eq] at step_within
          exact step_within

end Within

end Walk

/-! ### Member records -/

/-- The ten fields of a member record. -/
def Member.layout : List Walk.Step := [
  .text "member tag",
  .skip "member id type" 1, .text "member id key", .uint64 "member id",
  .skip "chat permissions type" 1, .text "chat permissions key", .int32 "chat permissions",
  .skip "clan permissions type" 1, .text "clan permissions key", .int32 "clan permissions"]

theorem Member.layout_reads : ∀ step ∈ layout, ∃ field, step.field? = some field := by
  simp [layout, Walk.Step.field?]

theorem Member.follows_layout : Walk.Follows Member.read Member.layout := by
  have word32_step (field : String) (walk : Walk) : walk.step (.int32 field) =
      walk.advance (Reader.word32 field) fun word => .int32 (.ofBitVec word) :=
    walk.advance_map (Reader.word32 field) Int32.ofBitVec .int32
  apply Walk.Follows.bind fun _ => rfl; intro _
  apply Walk.Follows.bind fun _ => rfl; intro _
  apply Walk.Follows.bind fun _ => rfl; intro _
  apply Walk.Follows.bind fun _ => rfl; intro _
  apply Walk.Follows.bind fun _ => rfl; intro _
  apply Walk.Follows.bind fun _ => rfl; intro _
  apply Walk.Follows.bind (word32_step _); intro _
  apply Walk.Follows.bind fun _ => rfl; intro _
  apply Walk.Follows.bind fun _ => rfl; intro _
  apply Walk.Follows.bind (word32_step _); intro _
  exact Walk.follows_pure _

namespace Walk

variable {payload : List UInt8} {walk reached : Walk} {shortfall : Shortfall}

theorem step_member (walk : Walk) :
    ((walk.step .member).1.map fun _ => (), (walk.step .member).2) =
      walk.makeAll Member.layout := by
  rw [Member.follows_layout walk]
  simp only [Walk.step, advance]
  rcases Member.read.readAt walk.cursor with ⟨missing | member, next⟩ <;> rfl

theorem Within.step (within : walk.Within payload) (step : Step) :
    (walk.step step).2.Within payload := by
  cases reads : step.field? with
  | some field => exact within.step_of_field reads
  | none =>
      cases step with
      | member =>
          have reached_eq := congrArg Prod.snd walk.step_member
          simp only at reached_eq
          rw [reached_eq]
          exact within.makeAll Member.layout_reads
      | mark => exact ⟨within.cursor, within.cursor⟩
      | back => exact ⟨within.marked, within.marked⟩
      | _ => cases reads

theorem Within.after (within : walk.Within payload) (steps : List Step) :
    (walk.after steps).Within payload := by
  induction steps generalizing walk with
  | nil => exact within
  | cons step rest ih => exact ih (within.step step)

/-- A member record that cannot be read fails at the first field that cannot, with the error of that
field and in front of it. -/
theorem exists_failed_field (failed : walk.step .member = (.error shortfall, reached)) :
    ∃ front step rest field, Member.layout = front ++ step :: rest ∧
      step.field? = some field ∧ walk.makeAll front = (.ok (), reached) ∧
      reached.step step = (.error shortfall, reached) ∧ shortfall.field = field.name ∧
      shortfall.offset = reached.cursor.position := by
  have all_failed := walk.step_member
  rw [failed] at all_failed
  rcases exists_failed_step all_failed.symm with
    ⟨front, step, rest, before, layout_eq, front_eq, step_eq⟩
  obtain ⟨field, reads⟩ := Member.layout_reads step (by simp [layout_eq])
  have step_law := Walk.step_of_field reads before
  simp only [step_eq] at step_law
  split at step_law
  · cases step_law
  · cases step_law
    exact ⟨front, step, rest, field, layout_eq, reads, front_eq, step_eq, rfl, rfl⟩

/-- The law of walks. Wherever a walk begins in a payload and whatever place it has marked, the
bytes read and the bytes left make up the payload. A step that reads a single field takes its bytes
and finds what they stand for, or else fails and stays where it is. A member record fails at the
first of its ten fields that is incomplete, and the walk stops in front of it. Reading does not move
the mark. Whatever is missing of a state change or a roster is missing at the end of the payload. -/
theorem bookkeeping (payload : List UInt8) :
    (ofBytes payload).Within payload ∧
    (∀ walk : Walk, walk.Within payload →
      (∀ steps, let reached := walk.after steps
        reached.Within payload ∧
          reached.cursor.position + reached.cursor.remaining = payload.length) ∧
      (∀ step field, step.field? = some field →
        let cursor := walk.cursor
        let width := field.width cursor.unread
        (width ≤ cursor.remaining → walk.step step =
          (.ok (field.finding ((payload.drop cursor.position).take width)),
            { walk with cursor := cursor.advance width })) ∧
        (cursor.remaining < width → walk.step step =
          (.error ⟨field.name, cursor.position, width, cursor.remaining⟩, walk))) ∧
      (∀ shortfall reached, walk.step .member = (.error shortfall, reached) →
        ∃ front step rest field, Member.layout = front ++ step :: rest ∧
          step.field? = some field ∧ walk.makeAll front = (.ok (), reached) ∧
          reached.step step = (.error shortfall, reached) ∧ shortfall.field = field.name ∧
          shortfall.offset = reached.cursor.position) ∧
      (∀ step, step ≠ .mark → (walk.step step).2.marked = walk.marked) ∧
      walk.step .mark = (.ok .nothing, { walk with marked := walk.cursor }) ∧
      walk.step .back = (.ok .nothing, { walk with cursor := walk.marked })) ∧
    (∀ shortfall, StateChange.ofBytes payload = .error shortfall →
      shortfall.Exact payload.length) ∧
    (∀ count shortfall, Roster.ofBytes payload count = .error shortfall →
      shortfall.Exact payload.length) ∧
    ∀ count name roster, Roster.ofBytes payload count = .ok (name, roster) →
      ∀ index shortfall, roster.answer? index = some (.error shortfall) →
        shortfall.Exact payload.length := by
  refine ⟨⟨.front payload, .front payload⟩, ?_, fun _ => StateChange.exact_of_ofBytes,
    fun _ _ => Roster.exact_of_ofBytes, ?_⟩
  · intro walk within
    refine ⟨?_, ?_, fun _ _ => exists_failed_field, ?_, rfl, rfl⟩
    · intro steps reached
      exact ⟨within.after steps, (within.after steps).cursor.extent_eq⟩
    · intro step field reads cursor width
      rw [step_of_field reads, ← within.cursor.unread_eq]
      exact ⟨fun enough => if_pos enough, fun scarce => if_neg (Nat.not_le_of_lt scarce)⟩
    · intro step not_mark
      cases step with
      | mark => exact absurd rfl not_mark
      | _ => rfl
  · intro count name roster opened index shortfall failed
    exact Roster.exact_of_shortfall? opened (Roster.shortfall?_of_answer? failed)

/-- A member record is cut short within the identifier: the walk stops in front of the identifier,
and the mark in front of the record is still there. Far too many bytes cannot be passed over
either. -/
theorem bookkeeping_of_cut_record :
    let member : Member := ⟨⟨5⟩, ⟨1⟩, ⟨1⟩⟩
    let payload : List UInt8 := 9 :: member.bytes.take 27
    let walk := (ofBytes payload).after [.byte "kind", .mark]
    ∃ reached, walk.Within payload ∧
      walk.step .member = (.error ⟨"member id", 24, 8, 4⟩, reached) ∧
      reached.cursor.position = 24 ∧ reached.marked = walk.cursor ∧
      walk.step (.skip "rest" 18446744073709551615) =
        (.error ⟨"rest", 1, 18446744073709551615, 27⟩, walk) := by
  intro member payload walk
  obtain ⟨begun, explored, -⟩ := bookkeeping payload
  have within : walk.Within payload := ((explored _ begun).1 _).1
  obtain ⟨-, law, record, unmoved, -⟩ := explored walk within
  have failed : walk.step .member =
      (.error ⟨"member id", 24, 8, 4⟩, (walk.step .member).2) := by decide +kernel
  obtain ⟨_, _, _, _, -, -, -, -, -, offset_eq⟩ := record _ _ failed
  refine ⟨_, within, failed, offset_eq.symm, unmoved .member (by decide), ?_⟩
  exact (law (.skip "rest" 18446744073709551615) _ rfl).2 (by decide +kernel)

end Walk

end Presence
