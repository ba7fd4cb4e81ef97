import Presence.Proofs.Record.Reader
import Presence.Proofs.Registry
import Presence.Record.Roster
import Presence.Record.StateChange

/-!
# Records are read as they were written

A member record, a state change and a roster are read back from their bytes, whatever follows them.
The reader of member records looks neither at the types nor at the names of the fields, so
`Member.reads_fields` leaves them open.
-/

namespace Presence

namespace Member

/-- The bytes of a member record whose fields have the given types and names. -/
def fields (tag idKey rightsKey rankKey : List UInt8) (idType rightsType rankType : UInt8)
    (member : Member) : List UInt8 :=
  (tag ++ [0]) ++ ([idType] ++ ((idKey ++ [0]) ++ (Word.bytes 8 member.id.raw.toNat ++
    ([rightsType] ++ ((rightsKey ++ [0]) ++ (Word.bytes 4 member.rights.bits.toNat ++
      ([rankType] ++ ((rankKey ++ [0]) ++ Word.bytes 4 member.rank.bits.toNat))))))))

theorem reads_fields {tag idKey rightsKey rankKey : List UInt8}
    (idType rightsType rankType : UInt8) (member : Member) (tag_free : 0 ∉ tag)
    (idKey_free : 0 ∉ idKey) (rightsKey_free : 0 ∉ rightsKey) (rankKey_free : 0 ∉ rankKey) :
    Reader.Reads read
      (fields tag idKey rightsKey rankKey idType rightsType rankType member) member := by
  apply (Reader.reads_text _ tag_free).bind
  apply (Reader.reads_skip _ [idType]).bind
  apply (Reader.reads_text _ idKey_free).bind
  apply (Reader.reads_uint64 _ member.id.raw).bind
  apply (Reader.reads_skip _ [rightsType]).bind
  apply (Reader.reads_text _ rightsKey_free).bind
  apply (Reader.reads_word32 _ member.rights.bits).bind
  apply (Reader.reads_skip _ [rankType]).bind
  apply (Reader.reads_text _ rankKey_free).bind
  rw [← List.append_nil (Word.bytes 4 member.rank.bits.toNat)]
  apply (Reader.reads_word32 _ member.rank.bits).bind
  exact Reader.reads_pure member

theorem bytes_eq_fields (member : Member) :
    member.bytes =
      fields (Utf8.encode "MessageObject") (Utf8.encode "steamid") (Utf8.encode "Permissions")
        (Utf8.encode "Details") uint64Type int32Type int32Type member := by
  simp [bytes, fields, terminated]

/-- A member record is read as it was written. -/
theorem reads_bytes (member : Member) : Reader.Reads read member.bytes member := by
  rw [bytes_eq_fields]
  exact reads_fields _ _ _ member (by decide) (by decide) (by decide) (by decide)

end Member

namespace Roster

/-- A member record as it stands in a roster, with the bytes that follow it. -/
structure Entry where
  member : Member
  padding : List UInt8
  /-- There are as many of them as a roster has. -/
  padding_length : padding.length = paddingLength

/-- The bytes of an entry. -/
def Entry.bytes (entry : Entry) : List UInt8 := entry.member.bytes ++ entry.padding

/-- The payload of a room entry: the name of the room, a byte that means nothing, the roster, and
whatever else follows. -/
def payload (name : List UInt8) (reserved : UInt8) (entries : List Entry) (rest : List UInt8) :
    List UInt8 :=
  (name ++ [0] ++ [reserved]) ++ (entries.flatMap Entry.bytes ++ rest)

theorem reads_readName {name : List UInt8} (name_free : 0 ∉ name) (reserved : UInt8) :
    Reader.Reads readName (name ++ [0] ++ [reserved]) (Utf8.decode name) := by
  apply (Reader.reads_text _ name_free).bind
  rw [← List.append_nil [reserved]]
  apply (Reader.reads_skip _ [reserved]).bind
  exact Reader.reads_pure _

theorem reads_readMember (entry : Entry) :
    Reader.Reads readMember entry.bytes entry.member := by
  apply entry.member.reads_bytes.bind
  rw [← List.append_nil entry.padding, ← entry.padding_length]
  apply (Reader.reads_skip _ entry.padding).bind
  exact Reader.reads_pure _

theorem ofBytes_payload {name : List UInt8} (name_free : 0 ∉ name) (reserved : UInt8)
    (entries : List Entry) (rest : List UInt8) (count : Nat) :
    ∃ position, ofBytes (payload name reserved entries rest) count =
      .ok (Utf8.decode name,
        { cursor := { unread := entries.flatMap Entry.bytes ++ rest, position },
          left := count }) := by
  refine ⟨0 + (name ++ [0] ++ [reserved]).length, ?_⟩
  rw [ofBytes, payload, reads_readName name_free reserved _ 0]

/-- Behind the entries that stand in front, the roster is read as if they had not been there. -/
theorem itemsAt_entries (entries : List Entry) (rest : List UInt8) (position more : Nat) :
    (itemsAt { unread := entries.flatMap Entry.bytes ++ rest, position }
        (entries.length + more)).map (·.1) =
      entries.map (fun entry => .ok entry.member) ++
        (itemsAt { unread := rest, position := position + (entries.flatMap Entry.bytes).length }
          more).map (·.1) := by
  -- Every entry moves the cursor, so the position is left open.
  induction entries generalizing position with
  | nil => simp
  | cons entry others ih =>
      have left_eq : (entry :: others).length + more = (others.length + more) + 1 := by
        simp only [List.length_cons]; omega
      rw [left_eq, itemsAt, List.flatMap_cons, List.append_assoc, reads_readMember entry]
      simp only [List.map_cons, List.cons_append, ih, List.length_append, Nat.add_assoc]

variable {roster : Roster} {members : List Member} {failures : List Shortfall}

theorem members_of_items
    (items_eq : roster.items.map (·.1) = members.map .ok ++ failures.map .error) :
    roster.members = members := by
  have members_eq : roster.members = (roster.items.map (·.1)).filterMap Except.toOption := by
    rw [Roster.members, List.filterMap_map]
    rfl
  have failures_eq : (failures.map .error).filterMap
      (Except.toOption : Except Shortfall Member → Option Member) = [] := by
    rw [List.filterMap_map]
    exact List.filterMap_eq_nil_iff.mpr fun _ _ => rfl
  rw [members_eq, items_eq, List.filterMap_append, failures_eq, List.append_nil,
    List.filterMap_map]
  exact List.filterMap_some

/-- A roster lacks what its first incomplete member lacks. -/
theorem shortfall?_of_items
    (items_eq : roster.items.map (·.1) = members.map .ok ++ failures.map .error) :
    roster.shortfall? = failures.head? := by
  rw [shortfall?]
  generalize roster.items = items at items_eq
  induction members generalizing items with
  | nil =>
      cases failures with
      | nil =>
          rw [List.map_eq_nil_iff.mp items_eq]
          rfl
      | cons first later =>
          rcases List.map_eq_cons_iff.mp items_eq with ⟨item, rest, rfl, item_eq, _⟩
          simp [item_eq]
  | cons member others ih =>
      rcases List.map_eq_cons_iff.mp items_eq with ⟨item, rest, rfl, item_eq, rest_eq⟩
      simp only [List.findSome?_cons, item_eq]
      exact ih rest rest_eq

theorem shortfall?_eq_none_iff
    (items_eq : roster.items.map (·.1) = members.map .ok ++ failures.map .error) :
    roster.shortfall? = none ↔ failures = [] := by
  rw [shortfall?_of_items items_eq, List.head?_eq_none_iff]

end Roster

namespace StateChange

/-- A state change is coherent if it can come from the wire: its kind is what its code stands for,
and it has a record exactly if a member enters. -/
structure Coherent (change : StateChange) : Prop where
  kind_eq : change.change = .ofCode change.change.code
  member_iff : change.member.isSome ↔ change.change = .known .entered

/-- The bytes behind the fixed fields of a state change. -/
def recordBytes : Option Member → List UInt8
  | some member => 0 :: member.bytes
  | none => []

theorem bytes_eq (change : StateChange) :
    change.bytes =
      Word.bytes 8 change.actedOn.raw.toNat ++ (Word.bytes 4 change.change.code.toBitVec.toNat ++
        (Word.bytes 8 change.actedBy.raw.toNat ++ recordBytes change.member)) := by
  simp only [bytes, List.append_assoc]
  cases change.member <;> rfl

theorem reads_readMember {kind : Wire MemberChange} {member : Option Member}
    (member_iff : member.isSome ↔ kind = .known .entered) :
    Reader.Reads (readMember kind) (recordBytes member) member := by
  cases member with
  | none =>
      have not_entered : kind ≠ .known .entered := fun entered => by simp [entered] at member_iff
      simp only [readMember, if_neg not_entered]
      exact Reader.reads_pure none
  | some member =>
      have entered : kind = .known .entered := member_iff.mp rfl
      simp only [readMember, if_pos entered]
      exact (Reader.reads_skip _ [0]).bind (member.reads_bytes.map some)

/-- A coherent state change is read as it was written. -/
theorem reads_bytes {change : StateChange} (coherent : change.Coherent) :
    Reader.Reads read change.bytes change := by
  rw [bytes_eq, ← List.append_nil (recordBytes change.member)]
  apply (Reader.reads_uint64 _ change.actedOn.raw).bind
  apply (Reader.reads_int32 _ change.change.code).bind
  apply (Reader.reads_uint64 _ change.actedBy.raw).bind
  rw [← coherent.kind_eq]
  apply (reads_readMember coherent.member_iff).bind
  exact Reader.reads_pure change

theorem ofBytes_bytes {change : StateChange} (coherent : change.Coherent) (rest : List UInt8) :
    ofBytes (change.bytes ++ rest) = .ok change := by
  rw [ofBytes, reads_bytes coherent rest 0]

theorem member_iff_of_readMember {kind : Wire MemberChange} {member : Option Member}
    {cursor reached : Cursor} (reading : (readMember kind).readAt cursor = (.ok member, reached)) :
    member.isSome ↔ kind = .known .entered := by
  by_cases entered : kind = .known .entered
  · simp only [readMember, if_pos entered] at reading
    rcases Reader.readAt_bind_ok reading with ⟨_, between, _, reading⟩
    rcases Reader.readAt_bind_ok reading with ⟨record, _, _, reading⟩
    cases reading
    simp [entered]
  · simp only [readMember, if_neg entered] at reading
    cases reading
    simp [entered]

/-- Whatever is read as a state change is coherent. -/
theorem coherent_of_ofBytes {payload : List UInt8} {change : StateChange}
    (reading : ofBytes payload = .ok change) : change.Coherent := by
  rcases readAt_eq : read.readAt { unread := payload } with ⟨result, reached⟩
  have result_eq : result = .ok change := by rw [← reading, ofBytes, readAt_eq]
  rw [result_eq] at readAt_eq
  rcases Reader.readAt_bind_ok readAt_eq with ⟨actedOn, _, _, readAt_eq⟩
  rcases Reader.readAt_bind_ok readAt_eq with ⟨code, _, _, readAt_eq⟩
  rcases Reader.readAt_bind_ok readAt_eq with ⟨actedBy, _, _, readAt_eq⟩
  rcases Reader.readAt_bind_ok readAt_eq with ⟨member, _, member_reading, readAt_eq⟩
  cases readAt_eq
  exact ⟨by rw [Wire.code_ofCode], member_iff_of_readMember member_reading⟩

end StateChange

end Presence
