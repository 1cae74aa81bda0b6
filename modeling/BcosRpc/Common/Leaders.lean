import Mathlib.Order.Basic

/-!
# Leaders

Names are reported with values, any number of times and in any order. The leaders are the
names reported with the greatest of the values.
-/

variable {κ α : Type*}

/-- A name is reported with a value that no reported value exceeds. -/
def Leads [LE α] (reports : List (κ × α)) (k : κ) : Prop :=
  ∃ x, (k, x) ∈ reports ∧ ∀ r ∈ reports, r.2 ≤ x

namespace Leads

/-- The leaders depend on the reports there are, not on their order or number. -/
theorem congr [LE α] {reports reports' : List (κ × α)} (h : ∀ r, r ∈ reports ↔ r ∈ reports')
    (k : κ) :
  Leads reports k ↔ Leads reports' k
  := by
  simp only [Leads, h]

/-- When a bound of the values is reported, the leaders are the names reported with it. -/
theorem iff_mem [PartialOrder α] {reports : List (κ × α)} {x : α}
    (hbound : ∀ r ∈ reports, r.2 ≤ x) (hreached : ∃ k, (k, x) ∈ reports) (k : κ) :
  Leads reports k ↔ (k, x) ∈ reports
  := by
  constructor
  · rintro ⟨y, hy, hmax⟩
    obtain ⟨k', hk'⟩ := hreached
    obtain rfl : y = x := le_antisymm (hbound _ hy) (hmax _ hk')
    apply hy
  · intro h
    exact ⟨x, h, hbound⟩

/-- A report above all others has the only leader. -/
theorem concat_mem_iff [Preorder α] {reports : List (κ × α)} {x : α}
    (hbelow : ∀ r ∈ reports, r.2 < x) (k n : κ) :
  (k, x) ∈ reports ++ [(n, x)] ↔ k = n
  := by
  rw [List.mem_append, List.mem_singleton, Prod.mk.injEq]
  constructor
  · rintro (h | ⟨h, _⟩)
    · apply absurd (hbelow _ h) (lt_irrefl x)
    · apply h
  · intro h
    exact Or.inr ⟨h, rfl⟩

end Leads
