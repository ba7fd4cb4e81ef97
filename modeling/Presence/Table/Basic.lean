import Presence.Account

/-!
# Tables keyed by account

A session keeps what it knows about friends, clans and rooms in tables. A table lists its entries by
ascending identifier and has at most one entry for each, so two tables with the same entries are
equal.

All changes go through `Table.alter`, which decides on the new entry from the old one.
-/

namespace Presence

/-- At most one value for every identifier. -/
structure Table (α : Type) where
  entries : List (AccountId × α)
  /-- The identifiers ascend. -/
  ascending : entries.Pairwise fun first second => first.1 < second.1

namespace Table

variable {α : Type}

instance [DecidableEq α] : DecidableEq (Table α) := fun first second =>
  decidable_of_iff (first.entries = second.entries) (by cases first; cases second; simp)

instance : EmptyCollection (Table α) := ⟨⟨[], .nil⟩⟩

instance : Inhabited (Table α) := ⟨∅⟩

/-- The value in a list of entries. -/
def lookup (id : AccountId) : List (AccountId × α) → Option α
  | [] => none
  | (key, value) :: rest => if key = id then some value else lookup id rest

/-- The value of an identifier. -/
def get? (table : Table α) (id : AccountId) : Option α := lookup id table.entries

/-- Whether an identifier has a value. -/
def contains (table : Table α) (id : AccountId) : Bool := (table.get? id).isSome

/-- The number of identifiers that have a value. -/
def size (table : Table α) : Nat := table.entries.length

/-- All values by ascending identifier. -/
def values (table : Table α) : List α := table.entries.map (·.2)

/-- Puts an entry in front of a list of entries, or none. -/
def consEntry (id : AccountId) : Option α → List (AccountId × α) → List (AccountId × α)
  | none, rest => rest
  | some value, rest => (id, value) :: rest

/-- Replaces the value of an identifier in a list of entries by what `change` makes of it. -/
def alterEntries (id : AccountId) (change : Option α → Option α) :
    List (AccountId × α) → List (AccountId × α)
  | [] => consEntry id (change none) []
  | (key, value) :: rest =>
      if key < id then (key, value) :: alterEntries id change rest
      else if key = id then consEntry id (change (some value)) rest
      else consEntry id (change none) ((key, value) :: rest)

theorem mem_consEntry {id : AccountId} {value : Option α} {entries : List (AccountId × α)}
    {entry : AccountId × α} (entry_mem : entry ∈ consEntry id value entries) :
    entry.1 = id ∨ entry ∈ entries := by
  cases value with
  | none => exact .inr entry_mem
  | some value =>
      rcases List.mem_cons.1 entry_mem with rfl | rest_mem
      · exact .inl rfl
      · exact .inr rest_mem

theorem mem_alterEntries {id : AccountId} {change : Option α → Option α}
    {entries : List (AccountId × α)} {entry : AccountId × α}
    (entry_mem : entry ∈ alterEntries id change entries) : entry.1 = id ∨ entry ∈ entries := by
  induction entries with
  | nil => exact mem_consEntry entry_mem
  | cons head rest rest_mem =>
      rw [alterEntries] at entry_mem
      split at entry_mem
      · rcases List.mem_cons.1 entry_mem with rfl | later
        · exact .inr List.mem_cons_self
        · exact (rest_mem later).imp_right (List.mem_cons_of_mem head)
      · split at entry_mem
        · exact (mem_consEntry entry_mem).imp_right (List.mem_cons_of_mem head)
        · exact mem_consEntry entry_mem

theorem consEntry_ascending {id : AccountId} {value : Option α}
    {entries : List (AccountId × α)}
    (ascending : entries.Pairwise fun first second => first.1 < second.1)
    (below : ∀ entry ∈ entries, id < entry.1) :
    (consEntry id value entries).Pairwise fun first second => first.1 < second.1 := by
  cases value with
  | none => exact ascending
  | some value => exact List.pairwise_cons.2 ⟨below, ascending⟩

theorem alterEntries_ascending {id : AccountId} {change : Option α → Option α}
    {entries : List (AccountId × α)}
    (ascending : entries.Pairwise fun first second => first.1 < second.1) :
    (alterEntries id change entries).Pairwise fun first second => first.1 < second.1 := by
  induction entries with
  | nil => exact consEntry_ascending .nil (by simp)
  | cons head rest rest_ascending =>
      obtain ⟨head_lt, ascending⟩ := List.pairwise_cons.1 ascending
      rw [alterEntries]
      split
      · rename_i head_lt_id
        refine List.pairwise_cons.2 ⟨fun entry entry_mem => ?_, rest_ascending ascending⟩
        rcases mem_alterEntries entry_mem with entry_eq | entry_mem
        · exact entry_eq ▸ head_lt_id
        · exact head_lt entry entry_mem
      · split
        · rename_i head_eq
          exact consEntry_ascending ascending (head_eq ▸ head_lt)
        · rename_i not_lt not_eq
          have id_lt : id < head.1 := AccountId.lt_of_not_lt not_lt not_eq
          refine consEntry_ascending (List.pairwise_cons.2 ⟨head_lt, ascending⟩) ?_
          intro entry entry_mem
          rcases List.mem_cons.1 entry_mem with rfl | entry_mem
          · exact id_lt
          · exact AccountId.lt_trans id_lt (head_lt entry entry_mem)

/-- Replaces the value of an identifier by what `change` makes of it. -/
def alter (table : Table α) (id : AccountId) (change : Option α → Option α) : Table α where
  entries := alterEntries id change table.entries
  ascending := alterEntries_ascending table.ascending

/-- Gives an identifier a value, whatever it had before. -/
def insert (table : Table α) (id : AccountId) (value : α) : Table α :=
  table.alter id fun _ => some value

/-- Gives an identifier a value unless it has one. -/
def insertIfNew (table : Table α) (id : AccountId) (value : α) : Table α :=
  table.alter id fun old => some (old.getD value)

/-- Takes the value of an identifier away. -/
def erase (table : Table α) (id : AccountId) : Table α := table.alter id fun _ => none

/-- Changes the value of an identifier, if it has one. -/
def modify (table : Table α) (id : AccountId) (change : α → α) : Table α :=
  table.alter id (Option.map change)

/-- Changes the value of an identifier, which is `initial` if it has none. -/
def upsert (table : Table α) (id : AccountId) (initial : α) (change : α → α) : Table α :=
  table.alter id fun old => some (change (old.getD initial))

end Table

end Presence
