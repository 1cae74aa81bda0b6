import Mathlib.Data.List.Basic

/-!
# Enumerations

The elements of a list, or of a sequence of lists, that have a property, with their positions.
The positions in a sequence of lists are pairs, in lexicographic order.
-/

namespace Enumeration

variable {α : Type} (p : α → Bool)

/-- The elements with the property and their indices, the first of which is `n`. -/
def hits (n : Nat) (l : List α) : List (α × Nat) :=
  (l.zipIdx n).filter fun x => p x.1

@[simp]
theorem hits_nil (n : Nat) :
  hits p n [] = []
  := rfl

theorem hits_cons (n : Nat) (a : α) (l : List α) :
  hits p n (a :: l) = if p a then (a, n) :: hits p (n + 1) l else hits p (n + 1) l
  := by
  rw [hits, List.zipIdx_cons, List.filter_cons]
  rfl

theorem mem_hits_iff (l : List α) (a : α) (k : Nat) :
  (a, k) ∈ hits p 0 l ↔ l[k]? = some a ∧ p a = true
  := by
  rw [hits, List.mem_filter, List.mk_mem_zipIdx_iff_getElem?]

/-- The indices grow. -/
theorem pairwise_hits (n : Nat) (l : List α) :
  (hits p n l).Pairwise fun x y => x.2 < y.2
  := by
  apply List.Pairwise.filter
  have hsnd : ((l.zipIdx n).map Prod.snd).Pairwise (· < ·) := by
    rw [List.zipIdx_map_snd]
    exact List.pairwise_lt_range'
  exact List.pairwise_map.mp hsnd

/-- Lexicographic order of positions. -/
def Before (x y : Nat × Nat) : Prop := x.1 < y.1 ∨ x.1 = y.1 ∧ x.2 < y.2

/-- The elements with the property of the lists `f 0`, …, `f (n - 1)`, with their positions. -/
def nestedHits (n : Nat) (f : Nat → List α) : List ((Nat × Nat) × α) :=
  (List.range n).flatMap fun i => (hits p 0 (f i)).map fun x => ((i, x.2), x.1)

theorem mem_nestedHits_iff (n : Nat) (f : Nat → List α) (i k : Nat) (a : α) :
  ((i, k), a) ∈ nestedHits p n f ↔ i < n ∧ (f i)[k]? = some a ∧ p a = true
  := by
  rw [← mem_hits_iff]
  simp [nestedHits]

/-- The positions grow in lexicographic order. -/
theorem pairwise_nestedHits (n : Nat) (f : Nat → List α) :
  ((nestedHits p n f).map Prod.fst).Pairwise Before
  := by
  induction n with
  | zero => exact List.Pairwise.nil
  | succ n ih =>
      have hrow : ((hits p 0 (f n)).map fun x => (n, x.2)).Pairwise Before := by
        apply List.pairwise_map.mpr
        apply (pairwise_hits p 0 (f n)).imp
        intro x y hlt
        apply Or.inr ⟨rfl, hlt⟩
      have hsplit : (nestedHits p (n + 1) f).map Prod.fst
          = (nestedHits p n f).map Prod.fst ++ (hits p 0 (f n)).map fun x => (n, x.2) := by
        simp [nestedHits, List.range_succ, Function.comp_def]
      rw [hsplit]
      apply List.pairwise_append.mpr ⟨ih, hrow, ?_⟩
      -- The rows before have smaller first indices.
      rintro _ hx _ hy
      obtain ⟨⟨⟨i, k⟩, a⟩, hmem, rfl⟩ := List.mem_map.mp hx
      obtain ⟨y, _, rfl⟩ := List.mem_map.mp hy
      left
      apply ((mem_nestedHits_iff p n f i k a).mp hmem).1

end Enumeration
