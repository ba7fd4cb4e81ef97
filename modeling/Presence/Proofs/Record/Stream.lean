import Presence.Proofs.Record.Iteration
import Presence.Proofs.Text.Utf8

/-!
# Streams of member records

Member records that were written one after another are read one after another, whatever follows
them, and so are the members of a roster, each with the bytes behind it. The name in front of the
roster is read as it was written, since decoding undoes encoding. `streams_read_back` says so for
every list of members.
-/

namespace Presence

variable {α : Type}

theorem length_flatMap_of_width {bytes : α → List UInt8} {width : Nat}
    (length_eq : ∀ value, (bytes value).length = width) (values : List α) :
    (values.flatMap bytes).length = width * values.length := by
  simp only [List.length_flatMap, length_eq, List.map_const', List.sum_replicate_nat]
  exact Nat.mul_comm ..

namespace Reader

/-- Reads some values one after another. -/
def times (reader : Reader α) : (count : Nat) → Reader (List α)
  | 0 => return []
  | count + 1 => do
      let value ← reader
      let others ← reader.times count
      return value :: others

theorem reads_times {reader : Reader α} {bytes : α → List UInt8}
    (reads : ∀ value, Reads reader (bytes value) value) (values : List α) :
    Reads (reader.times values.length) (values.flatMap bytes) values := by
  induction values with
  | nil => exact reads_pure []
  | cons value others ih =>
      have others_read : Reads (do return value :: (← reader.times others.length))
          (others.flatMap bytes) (value :: others) := by
        rw [← List.append_nil (others.flatMap bytes)]
        apply ih.bind
        exact reads_pure (value :: others)
      rw [List.flatMap_cons]
      exact (reads value).bind others_read

end Reader

theorem Member.length_bytes (member : Member) : member.bytes.length = 61 := by
  rw [bytes_eq_fields]
  simp only [fields, List.length_append, List.length_singleton, Word.length_bytes]
  decide

/-- A roster yields the members whose entries stand in front, if no others are announced. -/
theorem Roster.yields_entries (entries : List Entry) (rest : List UInt8) (position : Nat) :
    Yields { cursor := { unread := entries.flatMap Entry.bytes ++ rest, position },
             left := entries.length } (entries.map (·.member)) none := by
  induction entries generalizing position with
  | nil => exact .done _
  | cons entry others ih =>
      have reading := reads_readMember entry (others.flatMap Entry.bytes ++ rest) position
      rw [← List.append_assoc, ← List.flatMap_cons] at reading
      exact .member reading (ih _)

/-- The law of streams. Any members that were written one after another are read in order, whatever
follows, and nothing that follows is touched. A roster of any members, with any bytes behind each of
them, gives the name of the room and exactly these members. -/
theorem streams_read_back :
    (∀ (members : List Member) (tail : List UInt8),
      (Member.read.times members.length).readAt
          { unread := members.flatMap Member.bytes ++ tail } =
        (.ok members, { unread := tail, position := 61 * members.length })) ∧
    ∀ (name : String) (reserved : UInt8) (entries : List Roster.Entry) (rest : List UInt8),
      Char.ofNat 0 ∉ name.toList →
      ∃ roster,
        Roster.ofBytes (Roster.payload (Utf8.encode name) reserved entries rest)
          entries.length = .ok (name, roster) ∧
        ∀ index, roster.answer? index = (entries.map (fun entry => .ok entry.member))[index]? := by
  constructor
  · intro members tail
    rw [Reader.reads_times Member.reads_bytes members tail 0,
      length_flatMap_of_width Member.length_bytes, Nat.zero_add]
  · intro name reserved entries rest zero_free
    have name_free : 0 ∉ Utf8.encode name := mt Utf8.zero_mem_encode_iff.mp zero_free
    rcases Roster.ofBytes_payload name_free reserved entries rest entries.length with
      ⟨position, opened⟩
    rw [Utf8.decode_encode] at opened
    refine ⟨_, opened, ?_⟩
    intro index
    rw [(Roster.yields_entries entries rest position).answer?_eq, List.map_map,
      Option.toList_none, List.map_nil, List.append_nil]
    rfl

/-- The name has characters of several bytes, all permission bits are set, the identifier and the
padding have zero bytes, and there is something behind the roster. -/
theorem streams_read_back_of_accented_name :
    let name := "Café"
    let entry : Roster.Entry :=
      { member := ⟨⟨0x0110000100000500⟩, ⟨0xFFFFFFFF⟩, ⟨0x80000000⟩⟩
        padding := [0, 0, 7, 0, 0, 255]
        padding_length := rfl }
    Char.ofNat 0 ∉ name.toList ∧
      ∃ roster, Roster.ofBytes (Roster.payload (Utf8.encode name) 9 [entry] [0, 1]) 1 =
          .ok (name, roster) ∧
        roster.answer? 0 = some (.ok entry.member) ∧ roster.answer? 1 = none := by
  intro name entry
  have zero_free : Char.ofNat 0 ∉ name.toList := by decide
  obtain ⟨roster, opened, answers⟩ := streams_read_back.2 name 9 [entry] [0, 1] zero_free
  exact ⟨zero_free, roster, opened, answers 0, answers 1⟩

end Presence
