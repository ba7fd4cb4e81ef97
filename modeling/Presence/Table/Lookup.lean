import Presence.Table.Basic

/-!
# Values in a table

What every operation does to the values that `Table.get?` finds. All of it follows from
`Table.get?_alter`. Tables in which the same values are found are equal, `Table.ext_get?`.
-/

namespace Presence.Table

variable {α : Type}

theorem lookup_eq_none {id : AccountId} {entries : List (AccountId × α)}
    (not_mem : ∀ entry ∈ entries, entry.1 ≠ id) : lookup id entries = none := by
  induction entries with
  | nil => rfl
  | cons head rest rest_none =>
      rw [lookup, if_neg (not_mem head List.mem_cons_self)]
      exact rest_none fun entry entry_mem => not_mem entry (List.mem_cons_of_mem head entry_mem)

theorem lookup_consEntry (id other : AccountId) (value : Option α)
    (entries : List (AccountId × α)) :
    lookup other (consEntry id value entries) =
      if id = other then value.or (lookup other entries) else lookup other entries := by
  cases value with
  | none => simp [consEntry]
  | some value => simp only [consEntry, lookup, Option.some_or]

theorem lookup_alterEntries (id other : AccountId) (change : Option α → Option α)
    {entries : List (AccountId × α)}
    (ascending : entries.Pairwise fun first second => first.1 < second.1) :
    lookup other (alterEntries id change entries) =
      if id = other then change (lookup id entries) else lookup other entries := by
  induction entries with
  | nil => simp only [alterEntries, lookup_consEntry, lookup, Option.or_none]
  | cons head rest rest_eq =>
      obtain ⟨key, value⟩ := head
      obtain ⟨head_lt, ascending⟩ := List.pairwise_cons.1 ascending
      have absent : ∀ below, ¬key < below → lookup below rest = none := fun below not_lt =>
        lookup_eq_none fun entry entry_mem entry_eq => not_lt (entry_eq ▸ head_lt entry entry_mem)
      rw [alterEntries]
      split
      · rename_i key_lt
        have key_ne : key ≠ id := fun key_eq => AccountId.lt_irrefl id (key_eq ▸ key_lt)
        simp only [lookup, rest_eq ascending, if_neg key_ne]
        by_cases id_eq : id = other
        · subst id_eq; simp [key_ne]
        · simp [id_eq]
      · rename_i not_lt
        split
        · rename_i key_eq
          subst key_eq
          simp only [lookup_consEntry, lookup, if_pos, absent key (AccountId.lt_irrefl key)]
          by_cases key_eq : key = other
          · subst key_eq; simp [absent key (AccountId.lt_irrefl key)]
          · simp [key_eq]
        · rename_i key_ne
          simp only [lookup_consEntry, lookup, if_neg key_ne, absent id not_lt]
          by_cases id_eq : id = other
          · subst id_eq; simp [key_ne, absent id not_lt]
          · simp [id_eq]

@[simp]
theorem get?_empty (id : AccountId) : (∅ : Table α).get? id = none := rfl

theorem get?_alter (table : Table α) (id other : AccountId) (change : Option α → Option α) :
    (table.alter id change).get? other =
      if id = other then change (table.get? id) else table.get? other :=
  lookup_alterEntries id other change table.ascending

theorem get?_insert (table : Table α) (id other : AccountId) (value : α) :
    (table.insert id value).get? other = if id = other then some value else table.get? other :=
  get?_alter table id other _

theorem get?_insertIfNew (table : Table α) (id other : AccountId) (value : α) :
    (table.insertIfNew id value).get? other =
      if id = other then some ((table.get? id).getD value) else table.get? other :=
  get?_alter table id other _

theorem get?_erase (table : Table α) (id other : AccountId) :
    (table.erase id).get? other = if id = other then none else table.get? other :=
  get?_alter table id other _

theorem get?_modify (table : Table α) (id other : AccountId) (change : α → α) :
    (table.modify id change).get? other =
      if id = other then (table.get? id).map change else table.get? other :=
  get?_alter table id other _

theorem get?_upsert (table : Table α) (id other : AccountId) (initial : α) (change : α → α) :
    (table.upsert id initial change).get? other =
      if id = other then some (change ((table.get? id).getD initial)) else table.get? other :=
  get?_alter table id other _

/-! ### Tables with the same values are equal -/

theorem lookup_eq_some_iff {id : AccountId} {value : α} {entries : List (AccountId × α)}
    (ascending : entries.Pairwise fun first second => first.1 < second.1) :
    lookup id entries = some value ↔ (id, value) ∈ entries := by
  induction entries with
  | nil => simp [lookup]
  | cons head rest rest_iff =>
      obtain ⟨key, found⟩ := head
      obtain ⟨head_lt, ascending⟩ := List.pairwise_cons.1 ascending
      rw [lookup, List.mem_cons]
      split
      · rename_i key_eq
        subst key_eq
        constructor
        · rintro ⟨⟩
          exact .inl rfl
        · rintro (head_eq | value_mem)
          · cases head_eq; rfl
          · exact absurd (head_lt _ value_mem) (AccountId.lt_irrefl key)
      · rename_i key_ne
        rw [rest_iff ascending]
        constructor
        · exact .inr
        · rintro (head_eq | value_mem)
          · cases head_eq; exact absurd rfl key_ne
          · exact value_mem

theorem entries_eq_of_lookup {first second : List (AccountId × α)}
    (first_ascending : first.Pairwise fun first second => first.1 < second.1)
    (second_ascending : second.Pairwise fun first second => first.1 < second.1)
    (lookup_eq : ∀ id, lookup id first = lookup id second) : first = second := by
  induction first generalizing second with
  | nil =>
      cases second with
      | nil => rfl
      | cons head rest =>
          have head_eq := lookup_eq head.1
          simp [lookup] at head_eq
  | cons head rest rest_eq =>
      cases second with
      | nil =>
          have head_eq := lookup_eq head.1
          simp [lookup] at head_eq
      | cons other others =>
          obtain ⟨key, value⟩ := head
          obtain ⟨otherKey, otherValue⟩ := other
          obtain ⟨head_lt, first_ascending'⟩ := List.pairwise_cons.1 first_ascending
          obtain ⟨other_lt, second_ascending'⟩ := List.pairwise_cons.1 second_ascending
          have key_mem : (key, value) ∈ (otherKey, otherValue) :: others :=
            (lookup_eq_some_iff second_ascending).1 (by rw [← lookup_eq]; simp [lookup])
          have other_mem : (otherKey, otherValue) ∈ (key, value) :: rest :=
            (lookup_eq_some_iff first_ascending).1 (by rw [lookup_eq]; simp [lookup])
          have head_eq : (key, value) = (otherKey, otherValue) := by
            rcases List.mem_cons.1 key_mem with head_eq | key_mem
            · exact head_eq
            · rcases List.mem_cons.1 other_mem with head_eq | other_mem
              · exact head_eq.symm
              · exact absurd (AccountId.lt_trans (other_lt _ key_mem) (head_lt _ other_mem))
                  (AccountId.lt_irrefl otherKey)
          cases head_eq
          refine congrArg _ (rest_eq first_ascending' second_ascending' fun id => ?_)
          have id_eq := lookup_eq id
          simp only [lookup] at id_eq
          split at id_eq
          · rename_i key_eq
            subst key_eq
            rw [lookup_eq_none fun entry entry_mem entry_eq =>
                AccountId.lt_irrefl key (by simpa [entry_eq] using head_lt entry entry_mem),
              lookup_eq_none fun entry entry_mem entry_eq =>
                AccountId.lt_irrefl key (by simpa [entry_eq] using other_lt entry entry_mem)]
          · exact id_eq

/-- A table is determined by the values of the identifiers. -/
@[ext]
theorem ext_get? {first second : Table α} (get?_eq : ∀ id, first.get? id = second.get? id) :
    first = second := by
  have entries_eq := entries_eq_of_lookup first.ascending second.ascending get?_eq
  obtain ⟨entries, ascending⟩ := first
  cases entries_eq
  rfl

end Presence.Table
