import Presence.Proofs.Latest
import Presence.Proofs.Store.Entries

/-!
# Changes that are made twice

Some sequences of steps lead nowhere else when they are taken a second time, `Settles`. There are
three reasons for it: the steps forget what was there before, they only add what is missing and
remove what is there, or they overwrite fields with values of their own. A store settles if each of
its entries does, `Store.applyAll_again`.
-/

namespace Presence

variable {α β ρ ε σ : Type}

/-- Taken a second time, the steps change nothing more. -/
def Settles (step : σ → α → σ) (items : List α) : Prop :=
  ∀ state, items.foldl step (items.foldl step state) = items.foldl step state

theorem settles_of_unmoved {step : σ → α → σ} {items : List α}
    (unmoved : ∀ state, ∀ item ∈ items, step state item = state) : Settles step items := by
  intro state
  rw [foldl_unmoved unmoved]

theorem settles_of_constant {step : σ → α → σ} {items : List α}
    (constant : ∀ first second, items.foldl step first = items.foldl step second) :
    Settles step items := by
  intro state
  exact constant _ _

theorem settles_singleton {step : σ → α → σ} {item : α}
    (again : ∀ state, step (step state item) item = step state item) : Settles step [item] :=
  again

/-- Steps that are the same on the items settle together. -/
theorem Settles.congr {step other : σ → α → σ} {items : List α} (settles : Settles step items)
    (same : ∀ state, ∀ item ∈ items, other state item = step state item) :
    Settles other items := by
  intro state
  have foldl_eq (state : σ) : items.foldl other state = items.foldl step state :=
    List.foldl_ext other step state same
  rw [foldl_eq, foldl_eq]
  exact settles state

/-! ### Registers -/

/-- A step on a register leaves it alone, empties it, or fills it if it is empty. -/
inductive Registers (step : Option β → α → Option β) (item : α) : Prop where
  | ignores (same : ∀ held, step held item = held)
  | empties (gone : ∀ held, step held item = none)
  | fills (value : β) (kept : ∀ held, step held item = some (held.getD value))

/-- After steps on a register either nothing is left of what it held, or it still holds what it
held, if it held anything. -/
theorem foldl_registers {step : Option β → α → Option β} {items : List α}
    (registers : ∀ item ∈ items, Registers step item) :
    (∀ first second, items.foldl step first = items.foldl step second) ∨
      ∀ value, items.foldl step (some value) = some value := by
  induction items with
  | nil => exact .inr fun value => rfl
  | cons item rest ih =>
      have rest_registers : ∀ later ∈ rest, Registers step later := fun later later_mem =>
        registers later (List.mem_cons_of_mem item later_mem)
      simp only [List.foldl_cons]
      rcases ih rest_registers with constant | kept
      · exact .inl fun first second => constant _ _
      · cases registers item List.mem_cons_self with
        | ignores same => exact .inr fun value => by rw [same, kept]
        | empties gone => exact .inl fun first second => by rw [gone, gone]
        | fills value filled => exact .inr fun value => by rw [filled, Option.getD_some, kept]

theorem settles_registers {step : Option β → α → Option β} {items : List α}
    (registers : ∀ item ∈ items, Registers step item) : Settles step items := by
  rcases foldl_registers registers with constant | kept
  · exact settles_of_constant constant
  · intro held
    cases held with
    | some value => rw [kept, kept]
    | none =>
        cases result : items.foldl step none with
        | none => rw [result]
        | some value => rw [kept]

/-! ### Edits -/

/-- Of two edits the later either undoes the earlier, or has nothing to do with it. -/
def Overwriting (edit : ρ → ε → ρ) : Prop :=
  ∀ first second, (∀ record, edit (edit record first) second = edit record second) ∨
    first ≠ second ∧ ∀ record, edit (edit record first) second = edit (edit record second) first

/-- An edit that is still to come need not be made beforehand. -/
theorem Overwriting.foldl_edit_of_mem {edit : ρ → ε → ρ} (overwriting : Overwriting edit)
    {edits : List ε} {early : ε} (early_mem : early ∈ edits) (record : ρ) :
    edits.foldl edit (edit record early) = edits.foldl edit record := by
  induction edits generalizing record with
  | nil => cases early_mem
  | cons first rest ih =>
      simp only [List.foldl_cons]
      rcases overwriting early first with undone | ⟨early_ne, apart⟩
      · rw [undone]
      · rw [apart]
        apply ih
        rcases List.mem_cons.mp early_mem with early_eq | rest_mem
        · exact absurd early_eq early_ne
        · exact rest_mem

theorem Overwriting.settles {edit : ρ → ε → ρ} (overwriting : Overwriting edit)
    (edits : List ε) : Settles edit edits := by
  -- The first round is undone edit by edit, so it may consist of any edits of the second.
  have undone (early : List ε) (early_subset : early ⊆ edits) (record : ρ) :
      edits.foldl edit (early.foldl edit record) = edits.foldl edit record := by
    induction early generalizing record with
    | nil => rfl
    | cons first rest ih =>
        have ⟨first_mem, rest_subset⟩ := List.cons_subset.mp early_subset
        rw [List.foldl_cons, ih rest_subset, overwriting.foldl_edit_of_mem first_mem]
  exact fun record => undone edits (List.Subset.refl edits) record

/-- Edits that come in groups settle as well. -/
theorem Overwriting.settles_groups {edit : ρ → ε → ρ} (overwriting : Overwriting edit)
    (group : α → List ε) (items : List α) :
    Settles (fun record item => (group item).foldl edit record) items := by
  intro record
  simp only [← List.foldl_flatMap]
  exact overwriting.settles (items.flatMap group) record

theorem foldl_map_option (step : ρ → α → ρ) (items : List α) (held : Option ρ) :
    items.foldl (fun held item => held.map (step · item)) held =
      held.map (items.foldl step ·) := by
  cases held with
  | none => exact List.foldl_fixed' (fun _ => rfl) items
  | some record => exact List.foldl_hom some fun _ _ => rfl

theorem Settles.map_option {step : ρ → α → ρ} {items : List α} (settles : Settles step items) :
    Settles (fun held item => Option.map (step · item) held) items := by
  intro held
  simp only [foldl_map_option, Option.map_map]
  congr 1
  funext record
  exact settles record

theorem Friend.overwriting_edit : Overwriting Friend.edit := by
  intro first second
  cases first <;> cases second <;>
    first
    | exact .inl fun _ => rfl
    | exact .inr ⟨nofun, fun _ => rfl⟩

theorem Clan.overwriting_edit : Overwriting Clan.edit := by
  intro first second
  cases first <;> cases second <;>
    first
    | exact .inl fun _ => rfl
    | exact .inr ⟨nofun, fun _ => rfl⟩

theorem Persona.overwriting_edit : Overwriting Persona.edit := by
  intro first second
  cases first <;> cases second <;>
    first
    | exact .inl fun _ => rfl
    | exact .inr ⟨nofun, fun _ => rfl⟩

/-! ### Changes -/

namespace Change

/-- Whether a change adds or removes a friend or a clan. -/
def registers : Change → Bool
  | .addFriend _ | .removeFriend _ | .addClan _ | .removeClan _ => true
  | _ => false

/-- Whether a change edits a friend, a clan or the local persona. -/
def edits : Change → Bool
  | .editFriend .. | .editClan .. | .editPersona _ => true
  | _ => false

/-- The edits of a change to the friend of an account. -/
def friendEdits (id : AccountId) : Change → List Friend.Edit
  | .editFriend edited edits => if edited = id then edits else []
  | _ => []

/-- The edits of a change to the clan of an account. -/
def clanEdits (id : AccountId) : Change → List Clan.Edit
  | .editClan edited edits => if edited = id then edits else []
  | _ => []

/-- The edits of a change to the local persona. -/
def personaEdits : Change → List Persona.Edit
  | .editPersona edits => edits
  | _ => []

variable {change : Change}

theorem onFriend_registers (registers : change.registers) (id : AccountId) :
    Registers (onFriend id) change := by
  cases change with
  | addFriend added =>
      by_cases id_eq : added.id = id
      · exact .fills added fun held => if_pos id_eq
      · exact .ignores fun held => if_neg id_eq
  | removeFriend removed =>
      by_cases id_eq : removed = id
      · exact .empties fun held => if_pos id_eq
      · exact .ignores fun held => if_neg id_eq
  | addClan added => exact .ignores fun held => rfl
  | removeClan removed => exact .ignores fun held => rfl
  | _ => cases registers

theorem onClan_registers (registers : change.registers) (id : AccountId) :
    Registers (onClan id) change := by
  cases change with
  | addClan added =>
      by_cases id_eq : added.id = id
      · exact .fills added fun held => if_pos id_eq
      · exact .ignores fun held => if_neg id_eq
  | removeClan removed =>
      by_cases id_eq : removed = id
      · exact .empties fun held => if_pos id_eq
      · exact .ignores fun held => if_neg id_eq
  | addFriend added => exact .ignores fun held => rfl
  | removeFriend removed => exact .ignores fun held => rfl
  | _ => cases registers

theorem onFriend_eq_map (edits : change.edits) (id : AccountId) (friend : Option Friend) :
    change.onFriend id friend = friend.map ((change.friendEdits id).foldl Friend.edit) := by
  cases change with
  | editFriend edited edits =>
      simp only [onFriend, friendEdits]
      split
      · rfl
      · exact Option.map_id'.symm
  | editClan edited edits => exact Option.map_id'.symm
  | editPersona edits => exact Option.map_id'.symm
  | _ => cases edits

theorem onClan_eq_map (edits : change.edits) (id : AccountId) (clan : Option Clan) :
    change.onClan id clan = clan.map ((change.clanEdits id).foldl Clan.edit) := by
  cases change with
  | editClan edited edits =>
      simp only [onClan, clanEdits]
      split
      · rfl
      · exact Option.map_id'.symm
  | editFriend edited edits => exact Option.map_id'.symm
  | editPersona edits => exact Option.map_id'.symm
  | _ => cases edits

theorem onPersona_eq_foldl (persona : Persona) (change : Change) :
    change.onPersona persona = change.personaEdits.foldl Persona.edit persona := by
  cases change <;> rfl

theorem onRoom_of_registers (registers : change.registers) (id : AccountId)
    (room : Option Room) : change.onRoom id room = room := by
  cases change <;> first | rfl | cases registers

theorem onRoom_of_edits (edits : change.edits) (id : AccountId) (room : Option Room) :
    change.onRoom id room = room := by
  cases change <;> first | rfl | cases edits

/-- The local persona settles under all changes, since nothing but edits changes it. -/
theorem settles_onPersona (changes : List Change) : Settles onPersona changes := by
  apply (Persona.overwriting_edit.settles_groups personaEdits changes).congr
  intro persona change _
  exact onPersona_eq_foldl persona change

end Change

namespace Store

/-- If every entry settles, then the store does. -/
theorem applyAll_again {changes : List Change}
    (friends_settle : ∀ id, Settles (Change.onFriend id) changes)
    (clans_settle : ∀ id, Settles (Change.onClan id) changes)
    (rooms_settle : ∀ id, Settles (Change.onRoom id) changes) (store : Store) :
    (store.applyAll changes).applyAll changes = store.applyAll changes := by
  apply ext_entries
  · intro id
    simp only [friends_applyAll, friends_settle id _]
  · intro id
    simp only [clans_applyAll, clans_settle id _]
  · intro id
    simp only [rooms_applyAll, rooms_settle id _]
  · simp only [persona_applyAll, Change.settles_onPersona changes _]

/-- Additions and removals of friends and clans settle. -/
theorem applyAll_registers_again {changes : List Change}
    (registers : ∀ change ∈ changes, change.registers) (store : Store) :
    (store.applyAll changes).applyAll changes = store.applyAll changes := by
  apply applyAll_again
  · intro id
    apply settles_registers
    intro change change_mem
    exact Change.onFriend_registers (registers change change_mem) id
  · intro id
    apply settles_registers
    intro change change_mem
    exact Change.onClan_registers (registers change change_mem) id
  · intro id
    apply settles_of_unmoved
    intro room change change_mem
    exact Change.onRoom_of_registers (registers change change_mem) id room

/-- Edits of friends, clans and the local persona settle. -/
theorem applyAll_edits_again {changes : List Change} (edits : ∀ change ∈ changes, change.edits)
    (store : Store) :
    (store.applyAll changes).applyAll changes = store.applyAll changes := by
  apply applyAll_again
  · intro id
    have settles := (Friend.overwriting_edit.settles_groups (Change.friendEdits id)
      changes).map_option
    apply settles.congr
    intro friend change change_mem
    exact Change.onFriend_eq_map (edits change change_mem) id friend
  · intro id
    have settles := (Clan.overwriting_edit.settles_groups (Change.clanEdits id)
      changes).map_option
    apply settles.congr
    intro clan change change_mem
    exact Change.onClan_eq_map (edits change change_mem) id clan
  · intro id
    apply settles_of_unmoved
    intro room change change_mem
    exact Change.onRoom_of_edits (edits change change_mem) id room

end Store

end Presence
