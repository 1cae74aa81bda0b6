import BcosRpc.Machine.Basic

/-!
# Tables that follow a log of writes

A log is a list of keys with the values written to them, the first write first. What a table
that follows the log has at a key is the value last written to it, or what it had before.
-/

variable {κ α β : Type*}

/-- The value last written to a key. -/
def lastWrite [DecidableEq κ] (log : List (κ × α)) (k : κ) : Option α :=
  log.reverse.lookup k

/-- A table follows a log of writes from its content before to the one after. -/
def Follows [DecidableEq κ] (log : List (κ × α)) (before after : κ → Option α) : Prop :=
  ∀ k, after k = (lastWrite log k).or (before k)

section

variable [DecidableEq κ]

@[simp]
theorem lastWrite_nil (k : κ) :
  lastWrite ([] : List (κ × α)) k = none
  := rfl

theorem lastWrite_append (log log' : List (κ × α)) (k : κ) :
  lastWrite (log ++ log') k = (lastWrite log' k).or (lastWrite log k)
  := by
  rw [lastWrite, List.reverse_append, List.lookup_append]
  rfl

theorem lastWrite_singleton (k' : κ) (x : α) (k : κ) :
  lastWrite [(k', x)] k = if k = k' then some x else none
  := by
  rw [lastWrite, List.reverse_singleton, List.lookup_cons]
  by_cases h : k = k'
  · simp [h]
  · simp [h, beq_false_of_ne h]

theorem lastWrite_cons (w : κ × α) (log : List (κ × α)) (k : κ) :
  lastWrite (w :: log) k = (lastWrite log k).or (if k = w.1 then some w.2 else none)
  := by
  rw [← List.singleton_append, lastWrite_append, lastWrite_singleton]

theorem lastWrite_eq_none_iff (log : List (κ × α)) (k : κ) :
  lastWrite log k = none ↔ k ∉ log.map Prod.fst
  := by
  rw [lastWrite, List.lookup_eq_none_iff, List.mem_map]
  constructor
  · rintro h ⟨w, hw, rfl⟩
    have hne := h w (List.mem_reverse.mpr hw)
    simp at hne
  · intro h w hw
    rw [bne_iff_ne]
    rintro rfl
    apply h ⟨w, List.mem_reverse.mp hw, rfl⟩

theorem mem_of_lastWrite {log : List (κ × α)} {k : κ} {x : α} (h : lastWrite log k = some x) :
  (k, x) ∈ log
  := by
  obtain ⟨l₁, l₂, hlog, _⟩ := List.lookup_eq_some_iff.mp h
  rw [← List.mem_reverse, hlog]
  simp

/-- When all writes to a key are of one value, that is its value. -/
theorem lastWrite_eq_some_of_unique {log : List (κ × α)} {k : κ} {x : α} (hmem : (k, x) ∈ log)
    (hunique : ∀ y, (k, y) ∈ log → y = x) :
  lastWrite log k = some x
  := by
  cases h : lastWrite log k with
  | none => exact absurd (List.mem_map_of_mem hmem) ((lastWrite_eq_none_iff log k).mp h)
  | some y => rw [hunique y (mem_of_lastWrite h)]

/-- Reading the values of a log through a function. -/
theorem lastWrite_map (f : α → β) (log : List (κ × α)) (k : κ) :
  lastWrite (log.map fun w => (w.1, f w.2)) k = (lastWrite log k).map f
  := by
  induction log with
  | nil => rfl
  | cons w log ih =>
      rw [List.map_cons, lastWrite_cons, ih, lastWrite_cons, Option.map_or]
      congr 1
      split <;> rfl

/-! ### Following a log -/

namespace Follows

theorem refl (table : κ → Option α) :
  Follows [] table table
  := fun _ => rfl

theorem trans {log log' : List (κ × α)} {t₁ t₂ t₃ : κ → Option α} (h : Follows log t₁ t₂)
    (h' : Follows log' t₂ t₃) :
  Follows (log ++ log') t₁ t₃
  := by
  intro k
  rw [h' k, h k, lastWrite_append, Option.or_assoc]

theorem map (f : α → β) {log : List (κ × α)} {before after : κ → Option α}
    (h : Follows log before after) :
  Follows (log.map fun w => (w.1, f w.2)) (fun k => (before k).map f)
    (fun k => (after k).map f)
  := by
  intro k
  dsimp only
  rw [h k, lastWrite_map, Option.map_or]

/-- Two tables that follow one log agree on the keys it writes to. -/
theorem agree {log : List (κ × α)} {before after before' after' : κ → Option α}
    (h : Follows log before after) (h' : Follows log before' after') {k : κ}
    (hk : k ∈ log.map Prod.fst ∨ before k = before' k) :
  after k = after' k
  := by
  rw [h k, h' k]
  rcases hk with hmem | heq
  · obtain ⟨x, hx⟩ := Option.ne_none_iff_exists'.mp
      (mt (lastWrite_eq_none_iff log k).mp (not_not.mpr hmem))
    rw [hx, Option.some_or, Option.some_or]
  · rw [heq]

end Follows

/-- A table that follows the writes of every step of a machine follows those of a run. -/
theorem Machine.follows_run {S A E : Type*} {M : Machine S A E} (table : S → κ → Option α)
    {writes : A → List (κ × α)}
    (follow : ∀ {s a t e}, M.step s a = some (t, e) → Follows (writes a) (table s) (table t))
    {s t : S} {as : List A} {o : List E} (hrun : M.run s as = some (t, o)) :
  Follows (as.flatMap writes) (table s) (table t)
  := by
  apply Machine.run_history (I := fun as _ t => Follows (as.flatMap writes) (table s) (table t))
    _ (Follows.refl _) hrun
  intro as o t a u e hfollows hstep
  rw [List.flatMap_append, List.flatMap_singleton]
  apply hfollows.trans (follow hstep)

end
