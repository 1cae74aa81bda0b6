import Mathlib.Data.List.Basic

/-!
# Lists of pointers

A pointer that may be null is an optional value. What a loop makes of the objects behind the
pointers of a list has no value when one of them has none, as a loop that dereferences null does
not end.
-/

namespace Pointers

variable {α β : Type}

/-- A loop over a list ends when each round does. -/
theorem isSome_mapM_iff (f : α → Option β) (items : List α) :
  (items.mapM f).isSome ↔ ∀ item ∈ items, (f item).isSome
  := by
  induction items with
  | nil => simp
  | cons item items ih =>
      rw [List.forall_mem_cons, ← ih, List.mapM_cons]
      cases f item with
      | none => simp
      | some x => cases items.mapM f <;> simp

theorem forall_isSome_iff (items : List (Option α)) :
  (∀ item ∈ items, item.isSome) ↔ none ∉ items
  := by
  constructor
  · intro h hmem
    cases h none hmem
  · intro h item hitem
    cases item with
    | none => apply absurd hitem h
    | some x => rfl

/-- A loop over the objects behind the pointers of a list ends when none of them is null. -/
theorem isSome_mapM_id_iff (items : List (Option α)) :
  (items.mapM id).isSome ↔ none ∉ items
  := by
  rw [isSome_mapM_iff]
  apply forall_isSome_iff

theorem mapM_map_some (f : α → β) (items : List α) :
  (items.map some).mapM (Option.map f) = some (items.map f)
  := by
  induction items with
  | nil => rfl
  | cons item items ih =>
      rw [List.map_cons, List.mapM_cons, ih]
      rfl

theorem mapM_id_map_some (items : List α) :
  (items.map some).mapM id = some items
  := by
  have h := mapM_map_some id items
  rwa [Option.map_id, List.map_id] at h

/-- A list without a null pointer is one of pointers to objects. -/
theorem exists_eq_map_some {items : List (Option α)} (h : none ∉ items) :
  ∃ objects : List α, items = objects.map some
  := by
  induction items with
  | nil => exact ⟨[], rfl⟩
  | cons item items ih =>
      rw [List.mem_cons, not_or] at h
      obtain ⟨hitem, hitems⟩ := h
      obtain ⟨x, rfl⟩ := Option.ne_none_iff_exists'.mp (Ne.symm hitem)
      obtain ⟨objects, rfl⟩ := ih hitems
      exact ⟨x :: objects, rfl⟩

end Pointers
