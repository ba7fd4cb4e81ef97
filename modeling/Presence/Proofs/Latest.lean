import Mathlib.Data.List.Basic

/-!
# The last word

Much of what a session knows was told by several messages, of which the last one counts. `latest?`
picks the last value that anything in a list tells, and `foldl_latest` says that a state which every
step either leaves alone or overwrites ends up with it.
-/

namespace Presence

variable {α β γ σ : Type}

/-- The last value that something in a list tells. -/
def latest? (tell : α → Option β) (told : List α) : Option β := (told.filterMap tell).getLast?

@[simp]
theorem latest?_nil (tell : α → Option β) : latest? tell [] = none := rfl

theorem latest?_append (tell : α → Option β) (first second : List α) :
    latest? tell (first ++ second) = (latest? tell second).or (latest? tell first) := by
  simp only [latest?, List.filterMap_append, List.getLast?_append]

@[simp]
theorem latest?_singleton (tell : α → Option β) (only : α) : latest? tell [only] = tell only := by
  cases told : tell only <;> simp [latest?, told]

theorem latest?_cons (tell : α → Option β) (first : α) (rest : List α) :
    latest? tell (first :: rest) = (latest? tell rest).or (tell first) := by
  have append := latest?_append tell [first] rest
  simpa only [List.singleton_append, latest?_singleton] using append

theorem latest?_map (tell : β → Option γ) (change : α → β) (told : List α) :
    latest? tell (told.map change) = latest? (fun item => tell (change item)) told := by
  simp only [latest?, List.filterMap_map]
  rfl

theorem latest?_value (change : β → γ) (tell : α → Option β) (told : List α) :
    latest? (fun item => (tell item).map change) told = (latest? tell told).map change := by
  simp only [latest?, ← List.map_filterMap, List.getLast?_map]

theorem latest?_flatMap (tell : β → Option γ) (unfold : α → List β) (told : List α) :
    latest? tell (told.flatMap unfold) = latest? (fun item => latest? tell (unfold item)) told := by
  induction told with
  | nil => rfl
  | cons first rest ih => rw [List.flatMap_cons, latest?_append, latest?_cons, ih]

theorem latest?_eq_none_iff {tell : α → Option β} {told : List α} :
    latest? tell told = none ↔ ∀ item ∈ told, tell item = none := by
  simp only [latest?, List.getLast?_eq_none_iff, List.filterMap_eq_nil_iff]

theorem exists_mem_of_latest? {tell : α → Option β} {told : List α} {value : β}
    (last : latest? tell told = some value) : ∃ item ∈ told, tell item = some value :=
  List.mem_filterMap.mp (List.mem_of_getLast? last)

/-- A part of the state that every step either leaves alone or overwrites holds what was written
last. -/
theorem foldl_latest {tell : α → Option β} {step : σ → α → σ} {view : σ → β} {told : List α}
    (view_step : ∀ state, ∀ item ∈ told, view (step state item) = (tell item).getD (view state))
    (state : σ) : view (told.foldl step state) = (latest? tell told).getD (view state) := by
  induction told generalizing state with
  | nil => rfl
  | cons first rest ih =>
      have view_rest := ih (fun state item item_mem =>
        view_step state item (List.mem_cons_of_mem first item_mem)) (step state first)
      rw [List.foldl_cons, view_rest, view_step state first List.mem_cons_self, latest?_cons,
        Option.getD_or]

/-- Steps none of which moves the state leave it where it is. -/
theorem foldl_unmoved {step : σ → α → σ} {items : List α}
    (unmoved : ∀ state, ∀ item ∈ items, step state item = state) (state : σ) :
    items.foldl step state = state :=
  (List.foldl_ext step (fun state _ => state) state unmoved).trans (List.foldl_fixed items)

end Presence
