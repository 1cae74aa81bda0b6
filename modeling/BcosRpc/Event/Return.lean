import BcosRpc.Event.Cleanup
import BcosRpc.Event.Confined

/-!
# The return of the worker

While a task is in the table and no cancellation of its id is queued, the worker comes back to it,
wherever it is in an iteration: it visits the other tasks that are left, drains the queues and
visits the task. `EventSub.Attended.exists_step` says that the task can take each of its steps after
some steps of the worker for others, and `EventSub.Placed` when a task has not cancelled itself.
-/

open Std

/-! ### The cancellation of a task by itself -/

/-- Whether a cancellation is among the outputs. -/
def unsubscribes (o : List TaskOutput) : Bool :=
  o.any fun
    | .unsubscribeEventSub _ => true
    | _ => false

@[simp]
theorem unsubscribes_append (o o' : List TaskOutput) :
  unsubscribes (o ++ o') = (unsubscribes o || unsubscribes o')
  := List.any_append

theorem unsubscribes_iff {o : List TaskOutput} :
  unsubscribes o = true ↔ ∃ id, .unsubscribeEventSub id ∈ o
  := by
  rw [unsubscribes, List.any_eq_true]
  constructor
  · rintro ⟨x, hx, htrue⟩
    cases x with
    | unsubscribeEventSub id => exact ⟨id, hx⟩
    | _ => cases htrue
  · rintro ⟨id, hid⟩
    exact ⟨_, hid, rfl⟩

/-- A task cancels itself only. -/
theorem TaskStep.mem_unsubscribes_iff {m : Int} {task next : LiveTask} {a : TaskAction}
    {out : List TaskOutput} (h : TaskStep m task a (next, out)) {id : String} :
  .unsubscribeEventSub id ∈ out ↔ unsubscribes out = true ∧ id = task.id
  := by
  constructor
  · intro hid
    exact ⟨unsubscribes_iff.mpr ⟨id, hid⟩, h.about _ hid⟩
  · rintro ⟨hout, rfl⟩
    obtain ⟨id, hid⟩ := unsubscribes_iff.mp hout
    rw [← show id = task.id from h.about _ hid]
    apply hid

theorem unsubscribes_pushed (env : Env) (block : Block) (task : LiveTask) :
  unsubscribes (task.pushed env block) = false
  := by
  rcases task.pushed_cases env block with h | ⟨jResp, h⟩ <;> rw [h] <;> rfl

namespace EventSub

variable {m : Int} {p : Nat} {s t : EventSub × WorkerPhase} {env : Env} {task next : LiveTask}
  {out : List TaskOutput}

/-! ### Visits -/

/-- A task in the table whose cancellation is not queued, while the worker visits ids in the
table. -/
structure Attended (p : Nat) (s : EventSub × WorkerPhase) : Prop where
  consistent : s.1.Consistent
  table : s.1.InTable p
  kept : (s.1.heap p).id ∉ s.1.cancelTasks
  visits : VisitsTable s

theorem id_step {a : EventSubAction} {e : List (Nat × TaskOutput)}
    (hstep : (workerMachine m).step s a = some (t, e)) :
  (t.1.heap p).id = (s.1.heap p).id
  := congrArg Subscription.id (toSubscription_step rfl hstep)

/-- Only a drain of its cancellation takes a task from the table. -/
theorem Attended.table_step (h : Attended p s) {a : EventSubAction} {e : List (Nat × TaskOutput)}
    (hstep : (workerMachine m).step s a = some (t, e)) :
  t.1.InTable p
  := by
  have hbefore := h.table
  rw [InTable] at hbefore
  rw [InTable, id_step hstep]
  obtain ⟨hmodule, _⟩ := Machine.scheduled_step.mp hstep
  cases a with
  | subscribe =>
      obtain ⟨heq, _⟩ := Prod.mk.inj (Option.some.inj hmodule)
      rw [← heq]
      apply hbefore
  | unsubscribe id =>
      obtain ⟨heq, _⟩ := Prod.mk.inj (Option.some.inj hmodule)
      rw [← heq]
      apply hbefore
  | executeCancelTasks =>
      obtain ⟨heq, _⟩ := Prod.mk.inj (Option.some.inj hmodule)
      rw [← heq, executeCancelTasks]
      split
      · apply hbefore
      · rw [Table.getElem?_foldl_erase, if_neg h.kept]
        apply hbefore
  | executeAddTasks =>
      obtain ⟨heq, _⟩ := Prod.mk.inj (Option.some.inj hmodule)
      rw [← heq, executeAddTasks]
      split
      · apply hbefore
      · rw [getElem?_foldl_insertTask, hbefore]
        rfl
  | task q b =>
      obtain ⟨_, _, _, _, heq, _⟩ := stepTask_eq_some hmodule
      rw [heq, enqueue_tasks]
      apply hbefore

theorem Attended.step (h : Attended p s) {a : EventSubAction} {e : List (Nat × TaskOutput)}
    (hstep : (workerMachine m).step s a = some (t, e))
    (hkept : (s.1.heap p).id ∉ t.1.cancelTasks) :
  Attended p t
  := by
  constructor
  · apply h.consistent.step (Machine.scheduled_step.mp hstep).1
  · apply h.table_step hstep
  · rw [id_step hstep]
    apply hkept
  · apply visitsTable_step h.visits hstep

/-- A step of the task that does not cancel it keeps it attended. -/
theorem Attended.step_self (h : Attended p s) {b : TaskAction} {e : List (Nat × TaskOutput)}
    (hstep : (workerMachine m).step s (.task p b) = some (t, e))
    (hout : unsubscribes (e.filterMap (outputOf p)) = false) :
  Attended p t
  := by
  apply h.step hstep
  obtain ⟨hmodule, _⟩ := Machine.scheduled_step.mp hstep
  obtain ⟨_, task, out, htask, heq, rfl⟩ := stepTask_eq_some hmodule
  rw [filterMap_outputOf_self] at hout
  rw [heq, mem_cancelTasks_enqueue, (taskMachine_step htask).mem_unsubscribes_iff, hout]
  rintro (hbefore | ⟨hnone, _⟩)
  · apply h.kept hbefore
  · cases hnone

/-- The steps of the worker that are none of the task with the number. -/
inductive Elsewhere (env : Env) (p : Nat) : EventSubAction → Prop where
  | executeCancelTasks : Elsewhere env p .executeCancelTasks
  | executeAddTasks : Elsewhere env p .executeAddTasks
  | visit {q : Nat} (h : q ≠ p) : Elsewhere env p (.task q (.visit env))

theorem Elsewhere.actionOf_eq_none {a : EventSubAction} (h : Elsewhere env p a) :
  actionOf p a = none
  := by
  cases h with
  | visit hne => exact if_neg hne
  | _ => rfl

/-- The other tasks in the table have other ids, so their visits do not cancel the task. -/
theorem Attended.step_elsewhere (h : Attended p s) {a : EventSubAction} {e : List (Nat × TaskOutput)}
    (ha : Elsewhere env p a) (hstep : (workerMachine m).step s a = some (t, e)) :
  Attended p t
  := by
  apply h.step hstep
  obtain ⟨hmodule, _⟩ := Machine.scheduled_step.mp hstep
  cases ha with
  | executeCancelTasks =>
      obtain ⟨heq, _⟩ := Prod.mk.inj (Option.some.inj hmodule)
      rw [← heq, executeCancelTasks]
      split
      · apply h.kept
      · apply List.not_mem_nil
  | executeAddTasks =>
      obtain ⟨heq, _⟩ := Prod.mk.inj (Option.some.inj hmodule)
      rw [← heq, executeAddTasks]
      split
      · apply h.kept
      · apply h.kept
  | @visit q hne =>
      obtain ⟨hin, task, out, htask, heq, _⟩ := stepTask_eq_some hmodule
      rw [heq, mem_cancelTasks_enqueue, (taskMachine_step htask).mem_unsubscribes_iff]
      rintro (hbefore | ⟨_, hid⟩)
      · apply h.kept hbefore
      · have htable := h.table
        rw [InTable, hid] at htable
        apply hne (Option.some.inj (hin.symm.trans htable))

/-- The worker can visit the task. -/
def CanVisit (p : Nat) (s : EventSub × WorkerPhase) : Prop :=
  ∃ todo, s.2 = .visiting todo ∧ (s.1.heap p).id ∈ todo

/-- How many steps the worker takes at most before it can visit the task. -/
def stepsToVisit (p : Nat) (s : EventSub × WorkerPhase) : Nat :=
  match s.2 with
  | .cancelled => 1
  | .visiting todo => if (s.1.heap p).id ∈ todo then 0 else todo.length + 2

theorem CanVisit.stepsToVisit_eq_zero (h : CanVisit p s) :
  stepsToVisit p s = 0
  := by
  obtain ⟨s, phase⟩ := s
  obtain ⟨todo, rfl, hmem⟩ := h
  apply if_pos hmem

theorem stepsToVisit_visiting_le (p : Nat) (s : EventSub) (todo : List String) :
  stepsToVisit p (s, .visiting todo) ≤ todo.length + 2
  := by
  show (if (s.heap p).id ∈ todo then 0 else todo.length + 2) ≤ todo.length + 2
  split
  · apply Nat.zero_le
  · apply Nat.le_refl

/-- A step of a task is one of the module with its worker when the worker lets it through. -/
theorem exists_worker_step {s : EventSub} {phase phase' : WorkerPhase} {q : Nat} {b : TaskAction}
    (hstep : (taskMachine m).step (s.heap q) b = some (next, out)) (hreach : s.Reaches q b)
    (hphase : ∀ u : EventSub, (u.heap q).id = (s.heap q).id →
      nextPhase u phase (.task q b) = some phase') :
  ∃ u, (workerMachine m).step (s, phase) (.task q b) = some ((u, phase'), out.map (q, ·))
  := by
  have hmodule : s.stepTask m q b = some ((s.setTask q next).enqueue out, out.map (q, ·)) := by
    rw [stepTask, if_pos hreach, hstep]
    rfl
  use (s.setTask q next).enqueue out
  apply worker_step_task hmodule (hphase _ (stepTask_id hmodule q))

/-- The worker visits a task in the table whose id is left. -/
theorem exists_worker_visit {s : EventSub} {q : Nat} {env : Env} (hin : s.InTable q)
    (hstep : (taskMachine m).step (s.heap q) (.visit env) = some (next, out))
    {todo : List String} (hmem : (s.heap q).id ∈ todo) :
  ∃ u, (workerMachine m).step (s, .visiting todo) (.task q (.visit env))
    = some ((u, .visiting (todo.filter (· ≠ (s.heap q).id))), out.map (q, ·))
  := by
  apply exists_worker_step hstep hin
  intro u hid
  rw [nextPhase, hid]
  apply if_pos hmem

/-- While the worker cannot visit the task, another step of it is left. -/
theorem Attended.advance (h : Attended p s) (m : Int) (env : Env) (hnot : ¬ CanVisit p s) :
  ∃ a t e, Elsewhere env p a ∧ (workerMachine m).step s a = some (t, e) ∧ Attended p t
    ∧ stepsToVisit p t < stepsToVisit p s
  := by
  obtain ⟨s, phase⟩ := s
  cases phase with
  | cancelled =>
      have hstep : (workerMachine m).step (s, .cancelled) .executeAddTasks
        = some ((s.executeAddTasks, .visiting s.executeAddTasks.tasks.keys), []) := rfl
      have ha : Elsewhere env p .executeAddTasks := .executeAddTasks
      have hafter := h.step_elsewhere ha hstep
      refine ⟨_, _, _, ha, hstep, hafter, ?_⟩
      have hvisit : CanVisit p (s.executeAddTasks, .visiting s.executeAddTasks.tasks.keys) := by
        refine ⟨_, rfl, ?_⟩
        rw [ExtTreeMap.mem_keys, ExtTreeMap.mem_iff_isSome_getElem?, hafter.table]
        rfl
      rw [hvisit.stepsToVisit_eq_zero]
      apply Nat.zero_lt_one
  | visiting todo =>
      have hother : (s.heap p).id ∉ todo := fun hmem => hnot ⟨todo, rfl, hmem⟩
      have hsteps : stepsToVisit p (s, .visiting todo) = todo.length + 2 := if_neg hother
      rw [hsteps]
      cases todo with
      | nil =>
          have hstep : (workerMachine m).step (s, .visiting []) .executeCancelTasks
            = some ((s.executeCancelTasks, .cancelled), []) := rfl
          have ha : Elsewhere env p .executeCancelTasks := .executeCancelTasks
          refine ⟨_, _, _, ha, hstep, h.step_elsewhere ha hstep, ?_⟩
          apply Nat.one_lt_two
      | cons id todo =>
          -- the next id is that of another task, whose visit takes it from the list
          have hin := h.visits _ rfl id List.mem_cons_self
          obtain ⟨q, hq⟩ := Option.isSome_iff_exists.mp (ExtTreeMap.mem_iff_isSome_getElem?.mp hin)
          obtain rfl : (s.heap q).id = id := h.consistent.id id q hq
          have hne : q ≠ p := by
            rintro rfl
            apply hother List.mem_cons_self
          have htask : (taskMachine m).step (s.heap q) (.visit env) = some (_, _) := rfl
          have hleft : (s.heap q).id ∈ (s.heap q).id :: todo := List.mem_cons_self
          obtain ⟨u, hstep⟩ := exists_worker_visit hq htask hleft
          refine ⟨_, _, _, .visit hne, hstep, h.step_elsewhere (.visit hne) hstep, ?_⟩
          have hless : (((s.heap q).id :: todo).filter (· ≠ (s.heap q).id)).length
              < ((s.heap q).id :: todo).length := by
            apply List.length_filter_lt_length_iff_exists.mpr ⟨_, List.mem_cons_self, _⟩
            simp
          apply Nat.lt_of_le_of_lt (stepsToVisit_visiting_le p _ _)
          apply Nat.add_lt_add_right hless

/-- Wherever the worker is in an iteration, it comes back to the task. -/
theorem Attended.exists_visit (h : Attended p s) (m : Int) (env : Env) :
  ∃ as t e, (∀ a ∈ as, Elsewhere env p a) ∧ (workerMachine m).run s as = some (t, e) ∧ Attended p t
    ∧ CanVisit p t
  := by
  obtain ⟨as, t, e, _, hrest⟩ := Machine.exists_run_of_rank (M := workerMachine m) (o := [])
    (I := fun _ s => Attended p s) (C := Elsewhere env p) (G := CanVisit p) (stepsToVisit p)
    (fun h hnot => h.advance m env hnot) h
  exact ⟨as, t, e, hrest⟩

/-- What a run of the module with its worker is for the task. -/
theorem run_task_eq {as : List EventSubAction} {bs : List TaskAction} {e : List (Nat × TaskOutput)}
    (hrun : (workerMachine m).run s as = some (t, e)) (hsame : as.filterMap (actionOf p) = bs)
    (htask : (taskMachine m).run (s.1.heap p) bs = some (next, out)) :
  t.1.heap p = next ∧ e.filterMap (outputOf p) = out
  := by
  have hproj : (taskMachine m).run (s.1.heap p) (as.filterMap (actionOf p))
      = some (t.1.heap p, e.filterMap (outputOf p)) := (workerProjection m p).run hrun
  rw [hsame, htask] at hproj
  obtain ⟨hnext, hout⟩ := Prod.mk.inj (Option.some.inj hproj)
  exact ⟨hnext.symm, hout.symm⟩

theorem filterMap_actionOf_elsewhere {as : List EventSubAction}
    (has : ∀ a ∈ as, Elsewhere env p a) :
  as.filterMap (actionOf p) = []
  := by
  rw [List.filterMap_eq_nil_iff]
  intro a ha
  apply (has a ha).actionOf_eq_none

/-- A step that the task can take, it takes after some steps of the worker for others. -/
theorem Attended.exists_step (h : Attended p s) (env : Env) {b : TaskAction}
    (hstep : (taskMachine m).step (s.1.heap p) b = some (next, out)) :
  ∃ as t e, (∀ a ∈ as, Elsewhere env p a ∨ a = .task p b) ∧ as.filterMap (actionOf p) = [b]
    ∧ (workerMachine m).run s as = some (t, e) ∧ (unsubscribes out = false → Attended p t)
  := by
  obtain ⟨as, t, e, u, has, hrun, hattended, htaken⟩ : ∃ as t e u, (∀ a ∈ as, Elsewhere env p a)
      ∧ (workerMachine m).run s as = some (t, e) ∧ Attended p t
      ∧ (workerMachine m).step t (.task p b) = some (u, out.map (p, ·)) := by
    obtain ⟨s, phase⟩ := s
    cases b with
    | visit _ =>
        obtain ⟨as, ⟨t, _⟩, e, has, hrun, hattended, todo, rfl, hmem⟩ := h.exists_visit m env
        obtain ⟨hheap, _⟩ := run_task_eq hrun (filterMap_actionOf_elsewhere has) rfl
        rw [← hheap] at hstep
        obtain ⟨u, htaken⟩ := exists_worker_visit hattended.table hstep hmem
        exact ⟨as, _, e, _, has, hrun, hattended, htaken⟩
    | _ =>
        obtain ⟨u, htaken⟩ : ∃ u, (workerMachine m).step (s, phase) _ = some ((u, phase), _) :=
          exists_worker_step hstep trivial fun _ _ => rfl
        exact ⟨[], _, _, _, List.forall_mem_nil _, rfl, h, htaken⟩
  refine ⟨as ++ [.task p b], u, e ++ out.map (p, ·), ?_, ?_, ?_, ?_⟩
  · intro a ha
    rcases List.mem_append.mp ha with ha | ha
    · left
      apply has a ha
    · right
      apply List.mem_singleton.mp ha
  · rw [List.filterMap_append, filterMap_actionOf_elsewhere has]
    apply List.filterMap_cons_some (actionOf_eq_some.mpr rfl)
  · apply ((workerMachine m).run_append).mpr
    refine ⟨t, e, _, hrun, ?_, rfl⟩
    rw [Machine.run_singleton]
    apply htaken
  · intro hout
    apply hattended.step_self htaken
    rw [filterMap_outputOf_self]
    apply hout

/-! ### Cancellations -/

theorem not_mem_addTasks_step {a : EventSubAction} {e : List (Nat × TaskOutput)}
    (hlt : p < s.1.allocated) (hnot : p ∉ s.1.addTasks)
    (hstep : (workerMachine m).step s a = some (t, e)) :
  p ∉ t.1.addTasks
  := by
  obtain ⟨hmodule, _⟩ := Machine.scheduled_step.mp hstep
  cases a with
  | subscribe =>
      obtain ⟨heq, _⟩ := Prod.mk.inj (Option.some.inj hmodule)
      rw [← heq]
      show p ∉ s.1.addTasks ++ [s.1.allocated]
      rw [List.mem_append, List.mem_singleton]
      rintro (hmem | rfl)
      · apply hnot hmem
      · apply Nat.lt_irrefl _ hlt
  | unsubscribe id =>
      obtain ⟨heq, _⟩ := Prod.mk.inj (Option.some.inj hmodule)
      rw [← heq]
      apply hnot
  | executeCancelTasks =>
      obtain ⟨heq, _⟩ := Prod.mk.inj (Option.some.inj hmodule)
      rw [← heq, executeCancelTasks]
      split
      · apply hnot
      · apply hnot
  | executeAddTasks =>
      obtain ⟨heq, _⟩ := Prod.mk.inj (Option.some.inj hmodule)
      rw [← heq, executeAddTasks]
      split
      · apply hnot
      · apply List.not_mem_nil
  | task q b =>
      obtain ⟨_, _, _, _, heq, _⟩ := stepTask_eq_some hmodule
      rw [heq, enqueue_addTasks]
      apply hnot

/-- A task that waits for an answer or has cancelled itself is not in the queue any more, and a
cancellation of it that is not queued has been drained. -/
structure Placed (p : Nat) (o : List TaskOutput) (s : EventSub × WorkerPhase) : Prop where
  consistent : s.1.Consistent
  counted : s.1.Counted
  left : 0 < (s.1.heap p).blockNumberQueries ∨ (s.1.heap p).blockFetches ≠ []
    ∨ unsubscribes o = true → Subscribed p s ∧ p ∉ s.1.addTasks
  cancelled : unsubscribes o = true → (s.1.heap p).id ∈ s.1.cancelTasks ∨ s.1.Gone p

theorem placed_start (subscriptions : Nat → Subscription) (p : Nat) :
  Placed p [] (startWorker subscriptions)
  := by
  constructor
  · apply consistent_start
  · apply counted_start
  · rintro (hquery | hfetch | hout)
    · cases hquery
    · apply absurd rfl hfetch
    · cases hout
  · intro hout
    cases hout

/-- A task that takes a step has left the queue. -/
theorem Placed.left_of_step {o : List TaskOutput} (h : Placed p o s) {b : TaskAction}
    {e : List (Nat × TaskOutput)} (hstep : (workerMachine m).step s (.task p b) = some (t, e)) :
  Subscribed p s ∧ p ∉ s.1.addTasks
  := by
  obtain ⟨hmodule, _⟩ := Machine.scheduled_step.mp hstep
  obtain ⟨hreach, task, out, htask, _⟩ := stepTask_eq_some hmodule
  cases b with
  | visit env =>
      obtain ⟨hlt, hnot⟩ := h.consistent.table _ p hreach
      exact ⟨⟨h.consistent, h.counted, hlt⟩, hnot⟩
  | blockNumber env error head =>
      obtain ⟨hquery, _⟩ := Option.ite_none_right_eq_some.mp htask
      apply h.left (Or.inl hquery)
  | blockData env fetch error block =>
      obtain ⟨hfetch, _⟩ := Option.ite_none_right_eq_some.mp htask
      apply h.left (Or.inr (Or.inl (List.ne_nil_of_mem hfetch)))

/-- A cancellation that is queued stays queued, or it is drained and the task is gone. -/
theorem Subscribed.queued_step (h : Subscribed p s) (hnot : p ∉ s.1.addTasks)
    (hqueued : (s.1.heap p).id ∈ s.1.cancelTasks) {a : EventSubAction}
    {e : List (Nat × TaskOutput)} (hstep : (workerMachine m).step s a = some (t, e)) :
  (s.1.heap p).id ∈ t.1.cancelTasks ∨ t.1.Gone p
  := by
  have hafter := not_mem_addTasks_step h.allocated hnot hstep
  obtain ⟨hmodule, _⟩ := Machine.scheduled_step.mp hstep
  cases a with
  | subscribe =>
      obtain ⟨heq, _⟩ := Prod.mk.inj (Option.some.inj hmodule)
      rw [← heq]
      apply Or.inl hqueued
  | unsubscribe id =>
      obtain ⟨heq, _⟩ := Prod.mk.inj (Option.some.inj hmodule)
      rw [← heq]
      apply Or.inl (List.mem_append_left _ hqueued)
  | executeCancelTasks =>
      by_cases hcount : s.1.cancelTaskCount = 0
      · obtain ⟨heq, _⟩ := Prod.mk.inj (Option.some.inj hmodule)
        rw [← heq, executeCancelTasks, if_pos hcount]
        apply Or.inl hqueued
      · right
        apply (h.step hstep).gone hafter
        rw [InTable, id_step hstep]
        obtain ⟨heq, _⟩ := Prod.mk.inj (Option.some.inj hmodule)
        rw [← heq, executeCancelTasks, if_neg hcount, Table.getElem?_foldl_erase, if_pos hqueued]
        intro hnone
        cases hnone
  | executeAddTasks =>
      obtain ⟨heq, _⟩ := Prod.mk.inj (Option.some.inj hmodule)
      left
      rw [← heq, executeAddTasks]
      split
      · apply hqueued
      · apply hqueued
  | task q b =>
      obtain ⟨_, _, _, _, heq, _⟩ := stepTask_eq_some hmodule
      rw [heq, mem_cancelTasks_enqueue]
      apply Or.inl (Or.inl hqueued)

theorem Placed.step {a : EventSubAction} {o e : List (Nat × TaskOutput)}
    (h : Placed p (o.filterMap (outputOf p)) s)
    (hstep : (workerMachine m).step s a = some (t, e)) :
  Placed p ((o ++ e).filterMap (outputOf p)) t
  := by
  have hmodule := (Machine.scheduled_step.mp hstep).1
  have hafter : Subscribed p s ∧ p ∉ s.1.addTasks → Subscribed p t ∧ p ∉ t.1.addTasks := by
    rintro ⟨hsub, hnot⟩
    use hsub.step hstep
    apply not_mem_addTasks_step hsub.allocated hnot hstep
  have hlater : unsubscribes (o.filterMap (outputOf p)) = true →
      (t.1.heap p).id ∈ t.1.cancelTasks ∨ t.1.Gone p := by
    intro hout
    obtain ⟨hsub, hnot⟩ := h.left (Or.inr (Or.inr hout))
    rw [id_step hstep]
    rcases h.cancelled hout with hqueued | hgone
    · apply hsub.queued_step hnot hqueued hstep
    · apply Or.inr (hgone.step hmodule)
  rw [List.filterMap_append]
  constructor
  · apply h.consistent.step hmodule
  · apply h.counted.step hmodule
  · intro hactive
    apply hafter
    cases hact : actionOf p a with
    | none =>
        obtain ⟨hheap, hout⟩ := (workerProjection m p).idle hact hstep
        have hheap : t.1.heap p = s.1.heap p := hheap
        have hout : e.filterMap (outputOf p) = [] := hout
        rw [hheap, hout, List.append_nil] at hactive
        apply h.left hactive
    | some b =>
        obtain rfl := actionOf_eq_some.mp hact
        apply h.left_of_step hstep
  · rw [unsubscribes_append, Bool.or_eq_true]
    rintro (hbefore | hnow)
    · apply hlater hbefore
    · left
      cases hact : actionOf p a with
      | none =>
          have hout : e.filterMap (outputOf p) = [] := ((workerProjection m p).idle hact hstep).2
          rw [hout] at hnow
          cases hnow
      | some b =>
          obtain rfl := actionOf_eq_some.mp hact
          obtain ⟨_, task, out, htask, heq, rfl⟩ := stepTask_eq_some hmodule
          rw [filterMap_outputOf_self] at hnow
          rw [id_step hstep, heq, mem_cancelTasks_enqueue,
            (taskMachine_step htask).mem_unsubscribes_iff]
          exact Or.inr ⟨hnow, rfl⟩

/-- A task in the table whose cancellation is not queued has not cancelled itself. -/
theorem Placed.unsubscribes_eq_false {o : List TaskOutput} (h : Placed p o s)
    (htable : s.1.InTable p) (hqueued : (s.1.heap p).id ∉ s.1.cancelTasks) :
  unsubscribes o = false
  := by
  rw [Bool.eq_false_iff]
  intro hout
  rcases h.cancelled hout with hmem | hgone
  · apply hqueued hmem
  · apply hgone.table _ htable

end EventSub
