import Mathlib.Data.List.Basic
import Mathlib.Data.List.Nodup

/-!
# Tables

Facts about ordered tables and sets of keys with a lawful order: membership after a number of
erasures, and in the result of a filter.
-/

namespace Table

open Std

section

variable {α : Type*} [Ord α] [TransOrd α] [LawfulEqOrd α]

/-- A set is empty exactly when it has no member. -/
theorem isEmpty_iff_forall_not_mem (t : ExtTreeSet α) :
  t.isEmpty = true ↔ ∀ a, a ∉ t
  := by
  rw [ExtTreeSet.isEmpty_iff]
  constructor
  · rintro rfl a
    apply ExtTreeSet.not_mem_empty
  · intro h
    apply ExtTreeSet.ext_mem
    intro a
    simp [h a]

/-- A table is not empty exactly when it has a key. -/
theorem size_ne_zero_iff {β : Type*} (t : ExtTreeMap α β) :
  t.size ≠ 0 ↔ ∃ k, k ∈ t
  := by
  rw [← ExtTreeMap.length_keys, ne_eq, List.length_eq_zero_iff, List.eq_nil_iff_forall_not_mem,
    not_forall]
  simp only [not_not, ExtTreeMap.mem_keys]

/-- A key is in a filtered table exactly when its value passes. -/
theorem mem_filterMap_iff {β γ : Type*} (f : α → β → Option γ) (t : ExtTreeMap α β) (k : α) :
  k ∈ t.filterMap f ↔ ∃ x, t[k]? = some x ∧ (f k x).isSome = true
  := by
  rw [ExtTreeMap.mem_iff_isSome_getElem?, ExtTreeMap.getElem?_filterMap']
  cases t[k]? <;> simp

theorem mem_filter_iff {β : Type*} (f : α → β → Bool) (t : ExtTreeMap α β) (k : α) :
  k ∈ t.filter f ↔ ∃ x, t[k]? = some x ∧ f k x = true
  := by
  rw [ExtTreeMap.mem_filter]
  constructor
  · rintro ⟨h, hf⟩
    rw [ExtTreeMap.getKey_eq] at hf
    exact ⟨t[k], ExtTreeMap.getElem?_eq_some_getElem h, hf⟩
  · rintro ⟨x, hx, hf⟩
    obtain ⟨h, rfl⟩ := ExtTreeMap.getElem?_eq_some_iff.mp hx
    use h
    rwa [ExtTreeMap.getKey_eq]

/-- Erasing what is not there changes nothing. -/
theorem erase_of_not_mem {β : Type*} {t : ExtTreeMap α β} {k : α} (h : k ∉ t) :
  t.erase k = t
  := by
  apply ExtTreeMap.ext_getElem?
  intro i
  rw [ExtTreeMap.getElem?_erase]
  split
  · rename_i heq
    rw [← LawfulEqCmp.eq_of_compare heq, ExtTreeMap.getElem?_eq_none h]
  · rfl

theorem alter_none {β : Type*} (t : ExtTreeMap α β) (k : α) :
  t.alter k (fun _ => none) = t.erase k
  := by
  apply ExtTreeMap.ext_getElem?
  intro i
  rw [ExtTreeMap.getElem?_alter, ExtTreeMap.getElem?_erase]

theorem alter_some {β : Type*} (t : ExtTreeMap α β) (k : α) (x : β) :
  t.alter k (fun _ => some x) = t.insert k x
  := by
  apply ExtTreeMap.ext_getElem?
  intro i
  rw [ExtTreeMap.getElem?_alter, ExtTreeMap.getElem?_insert]

omit [LawfulEqOrd α] in
theorem nodup_keys_toList {β : Type*} (t : ExtTreeMap α β) :
  (t.toList.map Prod.fst).Nodup
  := by
  rw [ExtTreeMap.map_fst_toList_eq_keys]
  apply ExtTreeMap.nodup_keys

/-- A table with one key. -/
theorem toList_eq_singleton {β : Type*} {t : ExtTreeMap α β} {a : α} {x : β}
    (h : ∀ k y, t[k]? = some y ↔ k = a ∧ y = x) :
  t.toList = [(a, x)]
  := by
  apply List.perm_singleton.mp
  apply (List.perm_ext_iff_of_nodup (List.Nodup.of_map _ (nodup_keys_toList t))
    (List.nodup_singleton _)).mpr
  rintro ⟨k, y⟩
  rw [ExtTreeMap.mem_toList_iff_getElem?_eq_some, h, List.mem_singleton, Prod.mk.injEq]

end

section

variable {α β : Type*} [DecidableEq α]

theorem lookup_eq_none_of_not_mem {entries : List (α × β)} {k : α}
    (h : k ∉ entries.map Prod.fst) :
  entries.lookup k = none
  := by
  apply List.lookup_eq_none_iff.mpr
  intro entry hentry
  apply bne_iff_ne.mpr
  rintro rfl
  apply h (List.mem_map_of_mem hentry)

/-- Among entries with different keys, a key is looked up exactly where it is. -/
theorem lookup_eq_some_iff_mem {entries : List (α × β)}
    (hdistinct : (entries.map Prod.fst).Nodup) (k : α) (x : β) :
  entries.lookup k = some x ↔ (k, x) ∈ entries
  := by
  induction entries with
  | nil => simp
  | cons entry entries ih =>
      obtain ⟨i, y⟩ := entry
      obtain ⟨hnot, hrest⟩ := List.nodup_cons.mp hdistinct
      rw [List.lookup_cons, List.mem_cons, Prod.mk.injEq]
      by_cases hi : k = i
      · subst hi
        have habsent : (k, x) ∉ entries := by
          intro hmem
          apply hnot (List.mem_map.mpr ⟨_, hmem, rfl⟩)
        simp [habsent, eq_comm]
      · simp [beq_false_of_ne hi, hi, ih hrest]

/-- In two tables with the same keys in the same order and related values, a key is looked up with
related values. -/
theorem lookup_rel {γ : Type*} {R : β → γ → Prop} {entries : List (α × β)}
    {entries' : List (α × γ)}
    (h : List.Forall₂ (fun entry entry' => entry.1 = entry'.1 ∧ R entry.2 entry'.2)
      entries entries') (k : α) :
  Option.Rel R (entries.lookup k) (entries'.lookup k)
  := by
  induction h with
  | nil => apply Option.Rel.none
  | @cons entry entry' _ _ hentry _ ih =>
      obtain ⟨hkey, hvalue⟩ := hentry
      rw [List.lookup_cons, List.lookup_cons, ← hkey]
      by_cases hk : k = entry.1
      · rw [beq_iff_eq.mpr hk]
        apply Option.Rel.some hvalue
      · rw [beq_false_of_ne hk]
        apply ih

/-- What a selection picks from a list without repetitions when it picks no element but one. -/
theorem filterMap_eq_toList {l : List α} (hnodup : l.Nodup) {f : α → Option β} {a : α}
    (hother : ∀ x ∈ l, x ≠ a → f x = none) :
  l.filterMap f = if a ∈ l then (f a).toList else []
  := by
  split
  · rename_i hmem
    obtain ⟨before, after, rfl⟩ := List.append_of_mem hmem
    rw [List.nodup_append, List.nodup_cons] at hnodup
    obtain ⟨_, ⟨hafter, _⟩, hbefore⟩ := hnodup
    have hnone : ∀ part : List α, part ⊆ before ++ a :: after → a ∉ part →
        part.filterMap f = [] := by
      intro part hsub hnot
      apply List.filterMap_eq_nil_iff.mpr
      intro x hx
      apply hother x (hsub hx)
      rintro rfl
      apply hnot hx
    rw [List.filterMap_append, hnone before (List.subset_append_left _ _) _, List.nil_append,
      ← List.singleton_append, List.filterMap_append, hnone after _ hafter, List.append_nil]
    · cases h : f a <;> simp [h]
    · intro x hx
      apply List.mem_append_right _ (List.mem_cons_of_mem _ hx)
    · intro hmem
      apply hbefore a hmem a List.mem_cons_self rfl
  · rename_i hmem
    apply List.filterMap_eq_nil_iff.mpr
    intro x hx
    apply hother x hx
    rintro rfl
    apply hmem hx

/-- A loop over entries with different keys, each round of which changes what is seen at its own
key, changes what is seen at a key once, if at all. -/
theorem view_foldl {σ γ : Type*} (view : σ → α → γ) (change : β → γ → γ) {round : σ → α × β → σ}
    (hround : ∀ s entry k,
      view (round s entry) k = if k = entry.1 then change entry.2 (view s k) else view s k)
    {entries : List (α × β)} (hdistinct : (entries.map Prod.fst).Nodup) (s : σ) (k : α) :
  view (entries.foldl round s) k
    = match entries.lookup k with
      | none => view s k
      | some x => change x (view s k)
  := by
  induction entries generalizing s with
  | nil => rfl
  | cons entry entries ih =>
      obtain ⟨i, x⟩ := entry
      obtain ⟨hnot, hrest⟩ := List.nodup_cons.mp hdistinct
      rw [List.foldl_cons, ih hrest, List.lookup_cons, hround]
      by_cases hi : k = i
      · subst hi
        simp [lookup_eq_none_of_not_mem hnot]
      · simp [beq_false_of_ne hi, hi]

end

section

variable {α β : Type*} [Ord α] [TransOrd α] [LawfulEqOrd α] [DecidableEq α]

/-- After erasures, a key has the value it had before, unless it is erased. -/
theorem getElem?_foldl_erase (keys : List α) (t : ExtTreeMap α β) (k : α) :
  (keys.foldl ExtTreeMap.erase t)[k]? = if k ∈ keys then none else t[k]?
  := by
  induction keys generalizing t with
  | nil => simp
  | cons i keys ih =>
      rw [List.foldl_cons, ih, ExtTreeMap.getElem?_erase]
      by_cases hi : i = k
      · simp [hi]
      · simp [hi, Ne.symm hi]

theorem mem_foldl_erase (keys : List α) (t : ExtTreeMap α β) (k : α) :
  k ∈ keys.foldl ExtTreeMap.erase t ↔ k ∈ t ∧ k ∉ keys
  := by
  rw [ExtTreeMap.mem_iff_isSome_getElem?, getElem?_foldl_erase,
    ExtTreeMap.mem_iff_isSome_getElem?]
  by_cases hk : k ∈ keys <;> simp [hk]

theorem mem_foldl_eraseSet (keys : List α) (t : ExtTreeSet α) (k : α) :
  k ∈ keys.foldl ExtTreeSet.erase t ↔ k ∈ t ∧ k ∉ keys
  := by
  induction keys generalizing t with
  | nil => simp
  | cons i keys ih =>
      rw [List.foldl_cons, ih, ExtTreeSet.mem_erase]
      by_cases hi : i = k
      · simp [hi]
      · simp [hi, Ne.symm hi]

theorem lookup_toList (t : ExtTreeMap α β) (k : α) :
  t.toList.lookup k = t[k]?
  := by
  apply Option.ext
  intro x
  rw [lookup_eq_some_iff_mem (nodup_keys_toList t), ExtTreeMap.mem_toList_iff_getElem?_eq_some]

/-- A loop that replaces each value of a table or erases it is a `filterMap`. -/
theorem foldl_toList_alter (f : β → Option β) (t : ExtTreeMap α β) :
  t.toList.foldl (fun t entry => t.alter entry.1 fun _ => f entry.2) t
    = t.filterMap fun _ => f
  := by
  apply ExtTreeMap.ext_getElem?
  intro k
  have hround : ∀ (u : ExtTreeMap α β) (entry : α × β) (i : α),
      (u.alter entry.1 fun _ => f entry.2)[i]? = if i = entry.1 then f entry.2 else u[i]? := by
    intro u entry i
    rw [ExtTreeMap.getElem?_alter]
    simp only [LawfulEqCmp.compare_eq_iff_eq, @eq_comm _ entry.1]
  rw [view_foldl (fun u i => u[i]?) (fun x _ => f x) hround (nodup_keys_toList t), lookup_toList,
    ExtTreeMap.getElem?_filterMap']
  cases t[k]? <;> rfl

end

end Table
