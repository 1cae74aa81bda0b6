import BcosRpc.Machine.Basic
import Mathlib.Algebra.Group.Nat.Defs
import Mathlib.Data.List.Nodup

/-!
# A queue with a lock and a counter

Any number of callers push entries into a queue under a lock, and count them in a counter of
`32` bits. One worker drains the queue. It first reads the counter without the lock, and is done
when it is `0`; otherwise it takes the lock, processes all entries, stores `0`, clears the queue
and unlocks.

The steps of `queueMachine` are the single steps of the callers and of the worker, and they may
interleave in every way the lock allows. `served_of_run` says what holds of every run.
-/

universe u

/-- The lock: free, or held by a caller or by the worker, with what the holder has done. -/
inductive QueueLock (α : Type u) where
  | free
  | locked (x : α)
  | pushed (entry : Nat × α)
  | counted
  | processing (rest : List (Nat × α))
  | stored
  | cleared

/-- The state of the queue: the entries, numbered in the order of their pushes, the counter, the
lock, and who waits for it. -/
structure LockedQueue (α : Type u) where
  entries : List (Nat × α) := []
  pushes : Nat := 0
  counter : UInt32 := 0
  lock : QueueLock α := .free
  waiting : List α := []
  drainWaits : Bool := false

/-- The steps: a caller comes with an entry, one of those that wait takes the lock, the holder
pushes, counts and unlocks; the worker takes the next step of its drain. -/
inductive QueueAction (α : Type u) where
  | call (x : α)
  | lock (index : Nat)
  | push
  | increment
  | unlock
  | drain

/-- What the steps show: an entry is pushed, its push is completed, it is processed. -/
inductive QueueOutput (α : Type u) where
  | pushed (entry : Nat × α)
  | completed (entry : Nat × α)
  | processed (entry : Nat × α)
  deriving DecidableEq

def QueueAction.isDrain {α : Type u} : QueueAction α → Bool
  | .drain => true
  | _ => false

namespace LockedQueue

variable {α : Type u}

/-- The next step of the worker. Before it holds the lock, it reads the counter, and then waits
for the lock unless the counter is `0`. -/
def drain (s : LockedQueue α) : Option (LockedQueue α × List (QueueOutput α)) :=
  match s.lock with
  | .processing (entry :: rest) => some ({ s with lock := .processing rest }, [.processed entry])
  | .processing [] => some ({ s with counter := 0, lock := .stored }, [])
  | .stored => some ({ s with entries := [], lock := .cleared }, [])
  | .cleared => some ({ s with lock := .free }, [])
  | .free =>
      if s.drainWaits then
        some ({ s with lock := .processing s.entries, drainWaits := false }, [])
      else some ({ s with drainWaits := s.counter ≠ 0 }, [])
  | _ => if s.drainWaits then none else some ({ s with drainWaits := s.counter ≠ 0 }, [])

/-- The worker holds the lock. -/
def DrainHolds (s : LockedQueue α) : Prop :=
  match s.lock with
  | .processing _ | .stored | .cleared => True
  | _ => False

/-- A caller holds the lock. -/
def CallerHolds (s : LockedQueue α) : Prop :=
  match s.lock with
  | .locked _ | .pushed _ | .counted => True
  | _ => False

/-- The worker is not in a drain. -/
def Resting (s : LockedQueue α) : Prop := s.drainWaits = false ∧ ¬ s.DrainHolds

instance (s : LockedQueue α) : Decidable s.DrainHolds := by
  unfold DrainHolds
  split <;> infer_instance

instance (s : LockedQueue α) : Decidable s.Resting := inferInstanceAs (Decidable (_ ∧ _))

end LockedQueue

/-- The machine of the queue. -/
def queueMachine (α : Type u) : Machine (LockedQueue α) (QueueAction α) (QueueOutput α) where
  step s
    | .call x => some ({ s with waiting := s.waiting ++ [x] }, [])
    | .lock index =>
        match s.lock, s.waiting[index]? with
        | .free, some x =>
            some ({ s with lock := .locked x, waiting := s.waiting.eraseIdx index }, [])
        | _, _ => none
    | .push =>
        match s.lock with
        | .locked x =>
            let entry := (s.pushes, x)
            some ({ s with
              entries := s.entries ++ [entry]
              pushes := s.pushes + 1
              lock := .pushed entry }, [.pushed entry])
        | _ => none
    | .increment =>
        match s.lock with
        | .pushed entry =>
            some ({ s with counter := s.counter + 1, lock := .counted }, [.completed entry])
        | _ => none
    | .unlock =>
        match s.lock with
        | .counted => some ({ s with lock := .free }, [])
        | _ => none
    | .drain => s.drain

namespace LockedQueue

variable {α : Type u}

/-! ### What a run shows -/

def pushed (o : List (QueueOutput α)) : List (Nat × α) :=
  o.filterMap fun
    | .pushed entry => some entry
    | _ => none

def completed (o : List (QueueOutput α)) : List (Nat × α) :=
  o.filterMap fun
    | .completed entry => some entry
    | _ => none

def processed (o : List (QueueOutput α)) : List (Nat × α) :=
  o.filterMap fun
    | .processed entry => some entry
    | _ => none

@[simp]
theorem pushed_append (o o' : List (QueueOutput α)) :
  pushed (o ++ o') = pushed o ++ pushed o'
  := List.filterMap_append

@[simp]
theorem completed_nil :
  completed ([] : List (QueueOutput α)) = []
  := rfl

@[simp]
theorem completed_append (o o' : List (QueueOutput α)) :
  completed (o ++ o') = completed o ++ completed o'
  := List.filterMap_append

@[simp]
theorem processed_append (o o' : List (QueueOutput α)) :
  processed (o ++ o') = processed o ++ processed o'
  := List.filterMap_append

@[simp]
theorem processed_map (entries : List (Nat × α)) :
  processed (entries.map .processed) = entries
  := by
  simp [processed, List.filterMap_map]

/-- The entries that are still to be processed. -/
def unprocessed (s : LockedQueue α) : List (Nat × α) :=
  match s.lock with
  | .processing rest => rest
  | .stored | .cleared => []
  | _ => s.entries

/-- The entry whose push is not completed, if there is one. -/
def uncounted (s : LockedQueue α) : List (Nat × α) :=
  match s.lock with
  | .pushed entry => [entry]
  | _ => []

/-- The number of the entries, `0` from the moment it is stored. -/
def due (s : LockedQueue α) : Nat :=
  match s.lock with
  | .stored | .cleared => 0
  | _ => s.entries.length

/-- The invariant: the counter is the number of the entries but for the one that is not counted
yet, the entries pushed are those processed and those still to be processed, and all of them but
that one are completed. -/
structure Tracks (o : List (QueueOutput α)) (s : LockedQueue α) : Prop where
  counter : s.counter.toNat + s.uncounted.length = s.due
  cleared : s.lock = .cleared → s.entries = []
  pushed_eq : pushed o = processed o ++ s.unprocessed
  completed_eq : pushed o = completed o ++ s.uncounted
  numbers : (pushed o).map Prod.fst = List.range s.pushes

theorem tracks_start :
  Tracks ([] : List (QueueOutput α)) {}
  := by
  constructor <;> simp [uncounted, due, unprocessed, pushed, processed, completed]

/-- The next step of the worker: it reads the counter, it takes the lock, or it does what the
lock says comes next. -/
inductive DrainStep (s : LockedQueue α) : LockedQueue α → List (QueueOutput α) → Prop where
  | read (hresting : s.Resting) : DrainStep s { s with drainWaits := s.counter ≠ 0 } []
  | lock (hwaits : s.drainWaits = true) (hlock : s.lock = .free) :
      DrainStep s { s with lock := .processing s.entries, drainWaits := false } []
  | process {entry : Nat × α} {rest : List (Nat × α)}
      (hlock : s.lock = .processing (entry :: rest)) :
      DrainStep s { s with lock := .processing rest } [.processed entry]
  | store (hlock : s.lock = .processing []) :
      DrainStep s { s with counter := 0, lock := .stored } []
  | clear (hlock : s.lock = .stored) : DrainStep s { s with entries := [], lock := .cleared } []
  | unlock (hlock : s.lock = .cleared) : DrainStep s { s with lock := .free } []

theorem drain_cases {s t : LockedQueue α} {e : List (QueueOutput α)}
    (hstep : s.drain = some (t, e)) :
  s.DrainStep t e
  := by
  obtain ⟨entries, pushes, counter, lock, waiting, drainWaits⟩ := s
  cases lock with
  | processing rest =>
      cases rest with
      | nil =>
          cases hstep
          apply DrainStep.store rfl
      | cons entry rest =>
          cases hstep
          apply DrainStep.process rfl
  | stored =>
      cases hstep
      apply DrainStep.clear rfl
  | cleared =>
      cases hstep
      apply DrainStep.unlock rfl
  | free =>
      cases drainWaits with
      | true =>
          cases hstep
          apply DrainStep.lock rfl rfl
      | false =>
          cases hstep
          apply DrainStep.read ⟨rfl, id⟩
  | _ =>
      cases drainWaits with
      | true => cases hstep
      | false =>
          cases hstep
          apply DrainStep.read ⟨rfl, id⟩

/-- A step of a caller. -/
inductive CallerStep (s : LockedQueue α) : LockedQueue α → List (QueueOutput α) → Prop where
  | call (x : α) : CallerStep s { s with waiting := s.waiting ++ [x] } []
  | lock (hlock : s.lock = .free) (x : α) (index : Nat) :
      CallerStep s { s with lock := .locked x, waiting := s.waiting.eraseIdx index } []
  | push {x : α} (hlock : s.lock = .locked x) :
      CallerStep s { s with
        entries := s.entries ++ [(s.pushes, x)]
        pushes := s.pushes + 1
        lock := .pushed (s.pushes, x) } [.pushed (s.pushes, x)]
  | increment {entry : Nat × α} (hlock : s.lock = .pushed entry) :
      CallerStep s { s with counter := s.counter + 1, lock := .counted } [.completed entry]
  | unlock (hlock : s.lock = .counted) : CallerStep s { s with lock := .free } []

/-- A worker that rests reads the counter. -/
theorem DrainStep.eq_of_resting {s t : LockedQueue α} {e : List (QueueOutput α)}
    (h : s.DrainStep t e) (hresting : s.Resting) :
  t = { s with drainWaits := s.counter ≠ 0 }
  := by
  obtain ⟨hwaits, hholds⟩ := hresting
  rw [DrainHolds] at hholds
  cases h with
  | read _ => rfl
  | lock hwaits' _ =>
      rw [hwaits] at hwaits'
      cases hwaits'
  | process hlock => simp [hlock] at hholds
  | store hlock => simp [hlock] at hholds
  | clear hlock => simp [hlock] at hholds
  | unlock hlock => simp [hlock] at hholds

/-- A step of a caller neither starts nor ends a drain. -/
theorem CallerStep.resting_iff {s t : LockedQueue α} {e : List (QueueOutput α)}
    (h : s.CallerStep t e) :
  t.Resting ↔ s.Resting
  := by
  cases h with
  | call x => rfl
  | lock hlock _ _ => simp [Resting, DrainHolds, hlock]
  | push hlock => simp [Resting, DrainHolds, hlock]
  | increment hlock => simp [Resting, DrainHolds, hlock]
  | unlock hlock => simp [Resting, DrainHolds, hlock]

/-- A step is one of the worker or one of a caller. -/
theorem step_cases {s t : LockedQueue α} {a : QueueAction α} {e : List (QueueOutput α)}
    (hstep : (queueMachine α).step s a = some (t, e)) :
  a = .drain ∧ s.DrainStep t e ∨ a ≠ .drain ∧ s.CallerStep t e
  := by
  cases a with
  | drain => exact Or.inl ⟨rfl, drain_cases hstep⟩
  | call x =>
      cases hstep
      apply Or.inr ⟨nofun, .call x⟩
  | lock index =>
      obtain ⟨entries, pushes, counter, lock, waiting, drainWaits⟩ := s
      simp only [queueMachine] at hstep
      split at hstep
      · rename_i x hwaiting
        cases hstep
        apply Or.inr ⟨nofun, .lock rfl x index⟩
      · cases hstep
  | push =>
      obtain ⟨entries, pushes, counter, lock, waiting, drainWaits⟩ := s
      cases lock <;> cases hstep
      apply Or.inr ⟨nofun, .push rfl⟩
  | increment =>
      obtain ⟨entries, pushes, counter, lock, waiting, drainWaits⟩ := s
      cases lock <;> cases hstep
      apply Or.inr ⟨nofun, .increment rfl⟩
  | unlock =>
      obtain ⟨entries, pushes, counter, lock, waiting, drainWaits⟩ := s
      cases lock <;> cases hstep
      apply Or.inr ⟨nofun, .unlock rfl⟩

/-- Only the steps of the worker start and end a drain. -/
theorem resting_iff_of_step {s t : LockedQueue α} {a : QueueAction α} {e : List (QueueOutput α)}
    (hstep : (queueMachine α).step s a = some (t, e)) (ha : a.isDrain = false) :
  t.Resting ↔ s.Resting
  := by
  rcases step_cases hstep with ⟨rfl, -⟩ | ⟨-, hcaller⟩
  · cases ha
  · apply hcaller.resting_iff

/-! ### The invariant -/

/-- A step of the worker keeps the invariant. -/
theorem Tracks.drain {o e : List (QueueOutput α)} {s t : LockedQueue α} (h : Tracks o s)
    (hstep : s.DrainStep t e) :
  Tracks (o ++ e) t
  := by
  obtain ⟨hcounter, hcleared, hpushed, hcompleted, hnumbers⟩ := h
  cases hstep with
  | read _ =>
      rw [List.append_nil]
      exact ⟨hcounter, hcleared, hpushed, hcompleted, hnumbers⟩
  | lock _ hlock =>
      simp only [uncounted, due, unprocessed, hlock] at hcounter hpushed hcompleted
      rw [List.append_nil]
      exact ⟨hcounter, nofun, hpushed, hcompleted, hnumbers⟩
  | process hlock =>
      simp only [uncounted, due, unprocessed, hlock] at hcounter hpushed hcompleted
      constructor
      · apply hcounter
      · nofun
      · simpa [pushed, processed, unprocessed] using hpushed
      · simpa [pushed, completed, uncounted] using hcompleted
      · simpa [pushed] using hnumbers
  | store hlock =>
      simp only [uncounted, unprocessed, hlock] at hpushed hcompleted
      rw [List.append_nil]
      exact ⟨rfl, nofun, hpushed, hcompleted, hnumbers⟩
  | clear hlock =>
      simp only [uncounted, due, unprocessed, hlock] at hcounter hpushed hcompleted
      rw [List.append_nil]
      exact ⟨hcounter, fun _ => rfl, hpushed, hcompleted, hnumbers⟩
  | unlock hlock =>
      simp only [uncounted, due, unprocessed, hlock] at hcounter hpushed hcompleted
      have hempty := hcleared hlock
      rw [List.append_nil]
      constructor
      · simpa [uncounted, due, hempty] using hcounter
      · nofun
      · simpa [unprocessed, hempty] using hpushed
      · apply hcompleted
      · apply hnumbers

/-- A step of a caller keeps the invariant, as long as the counter does not overflow. -/
theorem Tracks.caller {o e : List (QueueOutput α)} {s t : LockedQueue α} (h : Tracks o s)
    (hbound : s.entries.length < 2 ^ 32) (hstep : s.CallerStep t e) :
  Tracks (o ++ e) t
  := by
  obtain ⟨hcounter, hcleared, hpushed, hcompleted, hnumbers⟩ := h
  cases hstep with
  | call x =>
      rw [List.append_nil]
      exact ⟨hcounter, hcleared, hpushed, hcompleted, hnumbers⟩
  | lock hlock x index =>
      simp only [uncounted, due, unprocessed, hlock] at hcounter hpushed hcompleted
      rw [List.append_nil]
      exact ⟨hcounter, nofun, hpushed, hcompleted, hnumbers⟩
  | push hlock =>
      simp only [uncounted, due, unprocessed, hlock] at hcounter hpushed hcompleted
      constructor
      · simpa [uncounted, due] using hcounter
      · nofun
      · rw [pushed_append, processed_append, hpushed, List.append_assoc, List.append_assoc]
        rfl
      · rw [pushed_append, completed_append, hcompleted, List.append_assoc, List.append_assoc]
        rfl
      · rw [pushed_append, List.map_append, hnumbers, List.range_succ]
        rfl
  | @increment entry hlock =>
      simp only [uncounted, due, unprocessed, hlock] at hcounter hpushed hcompleted
      rw [List.length_singleton] at hcounter
      have hadd : (s.counter + 1).toNat = s.counter.toNat + 1 := by
        rw [UInt32.toNat_add, UInt32.toNat_one, Nat.mod_eq_of_lt (by omega)]
      rw [← hadd] at hcounter
      constructor
      · apply hcounter
      · nofun
      · simpa [pushed, processed, unprocessed] using hpushed
      · simpa [pushed, completed, uncounted] using hcompleted
      · simpa [pushed] using hnumbers
  | unlock hlock =>
      simp only [uncounted, due, unprocessed, hlock] at hcounter hpushed hcompleted
      rw [List.append_nil]
      exact ⟨hcounter, nofun, hpushed, hcompleted, hnumbers⟩

/-- A step keeps the invariant, as long as the counter does not overflow. -/
theorem Tracks.step {o e : List (QueueOutput α)} {s t : LockedQueue α} {a : QueueAction α}
    (h : Tracks o s) (hbound : s.entries.length < 2 ^ 32)
    (hstep : (queueMachine α).step s a = some (t, e)) :
  Tracks (o ++ e) t
  := by
  rcases step_cases hstep with ⟨-, hdrain⟩ | ⟨-, hcaller⟩
  · apply h.drain hdrain
  · apply h.caller hbound hcaller

/-! ### Drains -/

/-- When the counter is `0` and the worker does not hold the lock, everything completed is
processed. -/
theorem Tracks.completed_eq_processed {o : List (QueueOutput α)} {s : LockedQueue α}
    (h : Tracks o s) (hholds : ¬ s.DrainHolds) (hzero : s.counter = 0) :
  completed o = processed o
  := by
  have hlength : s.uncounted.length = s.unprocessed.length := by
    have hcounter := h.counter
    rw [hzero] at hcounter
    obtain ⟨entries, pushes, counter, lock, waiting, drainWaits⟩ := s
    cases lock with
    | processing rest => exact absurd trivial hholds
    | stored => exact absurd trivial hholds
    | cleared => exact absurd trivial hholds
    | _ => simpa [uncounted, unprocessed, due] using hcounter
  apply (List.append_inj' (h.completed_eq.symm.trans h.pushed_eq) hlength).1

/-- Some entries were pushed, and they are processed unless a drain is under way. -/
structure Drains (before : List (Nat × α)) (o : List (QueueOutput α)) (s : LockedQueue α) :
    Prop where
  pushed : ∀ entry ∈ before, entry ∈ LockedQueue.pushed o
  processed : s.Resting → ∀ entry ∈ before, entry ∈ LockedQueue.processed o

/-- A drain that starts is responsible for everything that is completed. -/
theorem Tracks.drains {o e : List (QueueOutput α)} {s t : LockedQueue α} (h : Tracks o s)
    (hresting : s.Resting) (hstep : s.DrainStep t e) :
  Drains (completed o) (o ++ e) t
  := by
  constructor
  · intro entry hentry
    rw [pushed_append, h.completed_eq]
    simp [hentry]
  · intro ht entry hentry
    have hzero : s.counter = 0 := by
      rw [hstep.eq_of_resting hresting] at ht
      simpa using ht.1
    rw [h.completed_eq_processed hresting.2 hzero] at hentry
    rw [processed_append]
    apply List.mem_append_left _ hentry

/-- A step keeps it so. -/
theorem Drains.step {before : List (Nat × α)} {o e : List (QueueOutput α)} {s t : LockedQueue α}
    {a : QueueAction α} (h : Drains before o s) (htracks : Tracks o s)
    (hstep : (queueMachine α).step s a = some (t, e)) :
  Drains before (o ++ e) t
  := by
  constructor
  · intro entry hentry
    rw [pushed_append]
    apply List.mem_append_left _ (h.pushed entry hentry)
  · intro ht entry hentry
    rw [processed_append]
    apply List.mem_append_left
    rcases step_cases hstep with ⟨-, hdrain⟩ | ⟨-, hcaller⟩
    · cases hdrain with
      | read hresting => apply h.processed hresting entry hentry
      | unlock hlock =>
          have hall := htracks.pushed_eq
          rw [unprocessed, hlock, List.append_nil] at hall
          rw [← hall]
          apply h.pushed entry hentry
      | _ => exact absurd trivial ht.2
    · apply h.processed (hcaller.resting_iff.mp ht) entry hentry

/-! ### The end of a drain -/

/-- The worker alone takes the steps of its drain, until it rests. -/
inductive RunsToRest : LockedQueue α → LockedQueue α → List (QueueOutput α) → Prop where
  | last {s t : LockedQueue α} {e : List (QueueOutput α)} (hstep : s.drain = some (t, e))
      (hresting : t.Resting) : RunsToRest s t e
  | next {s t u : LockedQueue α} {e e' : List (QueueOutput α)} (hstep : s.drain = some (t, e))
      (hresting : ¬ t.Resting) (hlater : RunsToRest t u e') : RunsToRest s u (e ++ e')

/-- A machine that takes the steps of the worker in the worker's turn drains a queue of its own to
the end, and leaves what the steps leave as it is. -/
theorem RunsToRest.lift {S A E R : Type*} (M : Machine S A E) (queue : S → LockedQueue α)
    (others : S → R) (drain : A) (output : QueueOutput α → E) (turn done : S → Prop)
    (hlast : ∀ {s q e}, turn s → (queue s).drain = some (q, e) → q.Resting →
      ∃ t, M.step s drain = some (t, e.map output) ∧ done t ∧ others t = others s)
    (hnext : ∀ {s q e}, turn s → (queue s).drain = some (q, e) → ¬ q.Resting →
      ∃ t, M.step s drain = some (t, e.map output) ∧ turn t ∧ queue t = q ∧ others t = others s)
    {s : S} {q : LockedQueue α} {e : List (QueueOutput α)} (h : RunsToRest (queue s) q e)
    (hturn : turn s) :
  ∃ n t, M.run s (List.replicate n drain) = some (t, e.map output) ∧ done t ∧ others t = others s
  := by
  generalize hqueue : queue s = q₀ at h
  induction h generalizing s with
  | last hstep hresting =>
      subst hqueue
      obtain ⟨t, hdrain, hdone, hothers⟩ := hlast hturn hstep hresting
      use 1, t, (M.run_singleton s drain).trans hdrain, hdone
  | next hstep hresting _ ih =>
      subst hqueue
      obtain ⟨t, hdrain, hturn', hqueue, hothers⟩ := hnext hturn hstep hresting
      obtain ⟨n, u, hrun, hdone, hothers'⟩ := ih hturn' hqueue
      use n + 1, u
      rw [List.replicate_succ, List.map_append]
      exact ⟨(M.run_cons).mpr ⟨t, _, _, hdrain, hrun, rfl⟩, hdone, hothers'.trans hothers⟩

/-- A worker that holds the lock does not wait for it. -/
def HoldsOnce (s : LockedQueue α) : Prop := s.DrainHolds → s.drainWaits = false

theorem HoldsOnce.step {s t : LockedQueue α} {a : QueueAction α} {e : List (QueueOutput α)}
    (h : s.HoldsOnce) (hstep : (queueMachine α).step s a = some (t, e)) :
  t.HoldsOnce
  := by
  rw [HoldsOnce, DrainHolds] at h
  rcases step_cases hstep with ⟨-, hdrain⟩ | ⟨-, hcaller⟩
  · cases hdrain with
    | read hresting =>
        intro hholds
        apply absurd hholds hresting.2
    | lock _ _ =>
        intro _
        rfl
    | process hlock =>
        rw [hlock] at h
        apply h
    | store hlock =>
        rw [hlock] at h
        apply h
    | clear hlock =>
        rw [hlock] at h
        apply h
    | unlock _ => nofun
  · cases hcaller with
    | call x => apply h
    | lock _ _ _ => nofun
    | push _ => nofun
    | increment _ => nofun
    | unlock _ => nofun

theorem holdsOnce_of_run {as : List (QueueAction α)} {t : LockedQueue α}
    {o : List (QueueOutput α)} (hrun : (queueMachine α).run {} as = some (t, o)) :
  t.HoldsOnce
  := Machine.run_invariant (I := fun _ s => s.HoldsOnce) (o := []) (fun h hstep => h.step hstep)
    nofun hrun

theorem runsToRest_cleared (s : LockedQueue α) (hwaits : s.drainWaits = false) :
  ∃ t, RunsToRest { s with lock := .cleared } t []
  := ⟨_, .last rfl ⟨hwaits, id⟩⟩

theorem runsToRest_stored (s : LockedQueue α) (hwaits : s.drainWaits = false) :
  ∃ t, RunsToRest { s with lock := .stored } t []
  := by
  obtain ⟨t, hlater⟩ := runsToRest_cleared { s with entries := [] } hwaits
  have hcleared : ¬ Resting { s with entries := [], lock := .cleared } := fun h => h.2 trivial
  exact ⟨t, .next (e := []) rfl hcleared hlater⟩

/-- A worker that holds the lock processes what is left. -/
theorem runsToRest_processing (s : LockedQueue α) (rest : List (Nat × α))
    (hwaits : s.drainWaits = false) :
  ∃ t, RunsToRest { s with lock := .processing rest } t (rest.map .processed)
  := by
  induction rest with
  | nil =>
      obtain ⟨t, hlater⟩ := runsToRest_stored { s with counter := 0 } hwaits
      have hstored : ¬ Resting { s with counter := 0, lock := .stored } := fun h => h.2 trivial
      exact ⟨t, .next (e := []) rfl hstored hlater⟩
  | cons entry rest ih =>
      obtain ⟨t, hlater⟩ := ih
      have hprocessing : ¬ Resting { s with lock := .processing rest } := fun h => h.2 trivial
      exact ⟨t, .next (e := [.processed entry]) rfl hprocessing hlater⟩

/-- A worker that waits for a free lock takes it and processes all entries. -/
theorem runsToRest_waiting (s : LockedQueue α) :
  ∃ t, RunsToRest { s with lock := .free, drainWaits := true } t (s.entries.map .processed)
  := by
  obtain ⟨t, hlater⟩ := runsToRest_processing { s with drainWaits := false } s.entries rfl
  have hprocessing : ¬ Resting { s with lock := .processing s.entries, drainWaits := false } :=
    fun h => h.2 trivial
  exact ⟨t, .next (e := []) rfl hprocessing hlater⟩

/-- Where no caller holds the lock, the worker alone processes what is left. -/
theorem Tracks.runsToRest {o : List (QueueOutput α)} {s : LockedQueue α} (h : Tracks o s)
    (honce : s.HoldsOnce) (hholds : ¬ s.CallerHolds) :
  ∃ t, RunsToRest s t (s.unprocessed.map .processed)
  := by
  have hcounter := h.counter
  obtain ⟨entries, pushes, counter, lock, waiting, drainWaits⟩ := s
  cases lock with
  | locked x => exact absurd trivial hholds
  | pushed entry => exact absurd trivial hholds
  | counted => exact absurd trivial hholds
  | processing rest =>
      apply runsToRest_processing ⟨entries, pushes, counter, .free, waiting, drainWaits⟩ rest
        (honce trivial)
  | stored =>
      apply runsToRest_stored ⟨entries, pushes, counter, .free, waiting, drainWaits⟩
        (honce trivial)
  | cleared =>
      apply runsToRest_cleared ⟨entries, pushes, counter, .free, waiting, drainWaits⟩
        (honce trivial)
  | free =>
      cases drainWaits with
      | true => apply runsToRest_waiting ⟨entries, pushes, counter, .free, waiting, false⟩
      | false =>
          by_cases hzero : counter = 0
          · subst hzero
            obtain rfl : entries = [] := List.length_eq_zero_iff.mp hcounter.symm
            exact ⟨_, .last rfl ⟨rfl, id⟩⟩
          · obtain ⟨t, hlater⟩ :=
              runsToRest_waiting ⟨entries, pushes, counter, .free, waiting, false⟩
            have hread : LockedQueue.drain ⟨entries, pushes, counter, .free, waiting, false⟩
                = some (⟨entries, pushes, counter, .free, waiting, true⟩, []) := by
              simp [LockedQueue.drain, hzero]
            exact ⟨t, .next hread (fun h => Bool.noConfusion h.1) hlater⟩

/-- A caller that holds the lock can go on and unlock it. -/
theorem release_of_callerHolds {s : LockedQueue α} (h : s.CallerHolds) :
  ∃ as t e, (∀ a ∈ as, QueueAction.isDrain a = false) ∧ (queueMachine α).run s as = some (t, e)
    ∧ t.lock = .free
  := by
  obtain ⟨entries, pushes, counter, lock, waiting, drainWaits⟩ := s
  cases lock with
  | locked x => exact ⟨[.push, .increment, .unlock], _, _, by simp [QueueAction.isDrain], rfl, rfl⟩
  | pushed entry => exact ⟨[.increment, .unlock], _, _, by simp [QueueAction.isDrain], rfl, rfl⟩
  | counted => exact ⟨[.unlock], _, _, by simp [QueueAction.isDrain], rfl, rfl⟩
  | _ => cases h

/-! ### Runs -/

/-- What holds after a run. While the lock is free, the counter is the number of the entries.
What was pushed is processed, once and in its order, or is still to be processed. When a drain
has started after a push was completed, and the worker rests again, the entry is processed. A
caller that holds the lock can go on to unlock it, and unless one holds it the worker alone can
go on and process everything. -/
structure Served (as : List (QueueAction α)) (t : LockedQueue α) (o : List (QueueOutput α)) :
    Prop where
  counter : t.lock = .free → t.counter.toNat = t.entries.length
  kept : pushed o = processed o ++ t.unprocessed
  once : (processed o).Nodup
  drained : ∀ as₁ as₂ s o₁, as = as₁ ++ .drain :: as₂ →
    (queueMachine α).run {} as₁ = some (s, o₁) → s.Resting → t.Resting →
      ∀ entry ∈ completed o₁, entry ∈ processed o
  released : t.CallerHolds → ∃ as' u e, (∀ a ∈ as', QueueAction.isDrain a = false)
    ∧ (queueMachine α).run t as' = some (u, e) ∧ u.lock = .free
  finished : ¬ t.CallerHolds → ∃ u e, RunsToRest t u e ∧ pushed o = processed (o ++ e)

theorem Tracks.once {o : List (QueueOutput α)} {s : LockedQueue α} (h : Tracks o s) :
  (processed o).Nodup
  := by
  have hnodup : (pushed o).Nodup := by
    apply List.Nodup.of_map Prod.fst
    rw [h.numbers]
    apply List.nodup_range
  rw [h.pushed_eq] at hnodup
  apply hnodup.of_append_left

theorem Tracks.counter_of_free {o : List (QueueOutput α)} {s : LockedQueue α} (h : Tracks o s)
    (hfree : s.lock = .free) :
  s.counter.toNat = s.entries.length
  := by
  have hcounter := h.counter
  rw [uncounted, due, hfree] at hcounter
  apply hcounter

/-- Every run with fewer than `2 ^ 32` entries at any time serves what is pushed. -/
theorem served_of_run {as : List (QueueAction α)} {t : LockedQueue α} {o : List (QueueOutput α)}
    (hbound : (queueMachine α).Throughout (fun _ s => s.entries.length < 2 ^ 32) [] {} as)
    (hrun : (queueMachine α).run {} as = some (t, o)) :
  Served as t o
  := by
  have htracks : (queueMachine α).Throughout Tracks [] {} as :=
    hbound.invariant (fun h hlt hstep => h.step hlt hstep) tracks_start
  have hlast := htracks.run hrun
  constructor
  · apply hlast.counter_of_free
  · apply hlast.pushed_eq
  · apply hlast.once
  · rintro as₁ as₂ s o₁ rfl hfirst hresting ht entry hentry
    obtain ⟨s', _, o₂, hfirst', hrest, rfl⟩ := (Machine.run_append _).mp hrun
    rw [hfirst] at hfirst'
    cases hfirst'
    have hat := htracks.of_append hfirst
    obtain ⟨u, e, o₃, hstep, hlater, rfl⟩ := (Machine.run_cons _).mp hrest
    have hdrains : Drains (completed o₁) (o₁ ++ e) u := by
      rcases step_cases hstep with ⟨-, hdrain⟩ | ⟨hne, -⟩
      · apply hat.head.drains hresting hdrain
      · apply absurd rfl hne
    have hend := ((hat.2 u e hstep).invariant (fun h htracks hstep => h.step htracks hstep)
      hdrains).run hlater
    rw [← List.append_assoc]
    apply hend.processed ht entry hentry
  · apply release_of_callerHolds
  · intro hholds
    obtain ⟨u, hruns⟩ := hlast.runsToRest (holdsOnce_of_run hrun) hholds
    use u, t.unprocessed.map .processed, hruns
    rw [processed_append, processed_map]
    apply hlast.pushed_eq

/-! ### The steps that take effect -/

/-- The entries whose pushes are completed and that the worker has not taken. -/
def visible (s : LockedQueue α) : List (Nat × α) :=
  match s.lock with
  | .pushed _ => s.entries.dropLast
  | .processing _ | .stored | .cleared => []
  | _ => s.entries

/-- The counter, `0` once the worker has taken the entries. -/
def visibleCounter (s : LockedQueue α) : UInt32 :=
  match s.lock with
  | .processing _ | .stored | .cleared => 0
  | _ => s.counter

/-- The entries that the worker has taken and not processed. -/
def taken (s : LockedQueue α) : List (Nat × α) :=
  match s.lock with
  | .processing rest => rest
  | _ => []

theorem taken_of_not_drainHolds {s : LockedQueue α} (h : ¬ s.DrainHolds) :
  s.taken = []
  := by
  obtain ⟨entries, pushes, counter, lock, waiting, drainWaits⟩ := s
  cases lock with
  | processing rest => exact absurd trivial h
  | _ => rfl

/-- The entry that is not counted yet is the last one. -/
theorem Tracks.entries_eq {o : List (QueueOutput α)} {s : LockedQueue α} {entry : Nat × α}
    (h : Tracks o s) (hlock : s.lock = .pushed entry) :
  s.entries = s.entries.dropLast ++ [entry]
  := by
  obtain ⟨hcounter, -, hpushed, hcompleted, -⟩ := h
  simp only [uncounted, due, unprocessed, hlock] at hcounter hpushed hcompleted
  rcases List.eq_nil_or_concat s.entries with hnil | ⟨init, last, hconcat⟩
  · rw [hnil] at hcounter
    simp at hcounter
  · rw [hconcat, List.concat_eq_append, ← List.append_assoc] at hpushed
    obtain ⟨-, hlast⟩ := List.append_inj' (hpushed.symm.trans hcompleted) rfl
    rw [hconcat, List.concat_eq_append, List.dropLast_concat, hlast]

/-- The visible entries are counted. -/
theorem Tracks.toNat_visibleCounter {o : List (QueueOutput α)} {s : LockedQueue α}
    (h : Tracks o s) :
  s.visibleCounter.toNat = s.visible.length
  := by
  have hcounter := h.counter
  obtain ⟨entries, pushes, counter, lock, waiting, drainWaits⟩ := s
  cases lock with
  | pushed entry =>
      simp only [uncounted, due, List.length_singleton] at hcounter
      simp only [visible, visibleCounter, List.length_dropLast]
      omega
  | processing rest => rfl
  | stored => rfl
  | cleared => rfl
  | _ => apply hcounter

theorem Tracks.visible_eq_nil {o : List (QueueOutput α)} {s : LockedQueue α} (h : Tracks o s)
    (hzero : s.visibleCounter = 0) :
  s.visible = []
  := by
  apply List.eq_nil_of_length_eq_zero
  rw [← h.toNat_visibleCounter, hzero]
  rfl

/-- A caller takes effect when it counts: its entry, and nothing else, becomes visible. -/
theorem Tracks.visible_caller {o e : List (QueueOutput α)} {s t : LockedQueue α}
    (h : Tracks o s) (hstep : s.CallerStep t e) :
  t.taken = s.taken ∧ processed e = []
    ∧ (t.visible = s.visible ∧ t.visibleCounter = s.visibleCounter ∧ completed e = []
      ∨ ∃ entry, t.visible = s.visible ++ [entry] ∧ t.visibleCounter = s.visibleCounter + 1
        ∧ completed e = [entry])
  := by
  cases hstep with
  | call x => exact ⟨rfl, rfl, Or.inl ⟨rfl, rfl, rfl⟩⟩
  | lock hlock x index => simp [taken, visible, visibleCounter, processed, completed, hlock]
  | push hlock => simp [taken, visible, visibleCounter, processed, completed, hlock]
  | increment hlock =>
      have hentries := h.entries_eq hlock
      simp only [taken, visible, visibleCounter, hlock]
      exact ⟨trivial, rfl, Or.inr ⟨_, hentries, trivial, rfl⟩⟩
  | unlock hlock => simp [taken, visible, visibleCounter, processed, completed, hlock]

/-- The worker takes effect when it takes the lock: the visible entries are taken. -/
theorem Tracks.visible_drain {o e : List (QueueOutput α)} {s t : LockedQueue α}
    (h : Tracks o s) (hstep : s.DrainStep t e) :
  completed e = []
    ∧ (t.visible = s.visible ∧ t.visibleCounter = s.visibleCounter
        ∧ s.taken = processed e ++ t.taken
      ∨ s.taken = [] ∧ processed e = [] ∧ t.taken = s.visible ∧ t.visible = []
        ∧ t.visibleCounter = 0)
  := by
  cases hstep with
  | read _ => exact ⟨rfl, Or.inl ⟨rfl, rfl, rfl⟩⟩
  | lock _ hlock => simp [taken, visible, visibleCounter, processed, completed, hlock]
  | process hlock => simp [taken, visible, visibleCounter, processed, completed, hlock]
  | store hlock => simp [taken, visible, visibleCounter, processed, completed, hlock]
  | clear hlock => simp [taken, visible, visibleCounter, processed, completed, hlock]
  | unlock hlock =>
      have hcounter := h.counter
      have hempty := h.cleared hlock
      rw [uncounted, due, hlock] at hcounter
      have hzero : s.counter = 0 := UInt32.toNat_inj.mp hcounter
      simp [taken, visible, visibleCounter, processed, completed, hlock, hempty, hzero]

end LockedQueue
