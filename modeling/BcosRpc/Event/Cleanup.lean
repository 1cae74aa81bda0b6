import BcosRpc.Event.Cancel
import BcosRpc.Event.Queues
import BcosRpc.Event.Worker

/-!
# Cleaning up

A visit to a task whose session is not connected, or which is complete, queues the cancellation
of the task. `gone_of_cancelled` says that a task all whose visits do so is gone after two
iterations of the worker, wherever it is found first.
-/

open Std

namespace EventSub

variable {m : Int} {p : Nat}

/-- Fewer than `2 ^ 32` requests wait in a queue when it is drained. -/
def QueuesFit (s : EventSub) : EventSubAction → Prop
  | .executeCancelTasks => s.cancelTasks.length < 2 ^ 32
  | .executeAddTasks => s.addTasks.length < 2 ^ 32
  | _ => True

instance (s : EventSub) (a : EventSubAction) : Decidable (QueuesFit s a) :=
  match a with
  | .executeCancelTasks => inferInstanceAs (Decidable (_ < _))
  | .executeAddTasks => inferInstanceAs (Decidable (_ < _))
  | .subscribe => isTrue trivial
  | .unsubscribe _ => isTrue trivial
  | .task .. => isTrue trivial

/-- A visit to the task queues its cancellation. -/
def VisitCancels (p : Nat) (s : EventSub) (a : EventSubAction) : Prop :=
  ∀ env, a = .task p (.visit env) →
    .unsubscribeEventSub (s.heap p).id ∈ ((s.heap p).executeEventSubTask env).2

/-- A task that is gone after the next drain of the cancellations, if all its visits queue its
cancellation: it is gone already, its cancellation is queued, or it is to be visited before. -/
inductive Due (p : Nat) (s : EventSub × WorkerPhase) : Prop where
  | gone (h : s.1.Gone p)
  | queued (htable : p ∉ s.1.addTasks) (h : (s.1.heap p).id ∈ s.1.cancelTasks)
  | visited (htable : p ∉ s.1.addTasks) {todo : List String} (h : (s.1.heap p).id ∈ todo)
      (hphase : s.2 = .visiting todo)
  | drained (hphase : s.2 = .cancelled)

/-- A task that is subscribed, in a state that a run reaches. -/
structure Subscribed (p : Nat) (s : EventSub × WorkerPhase) : Prop where
  consistent : s.1.Consistent
  counted : s.1.Counted
  allocated : p < s.1.allocated

/-- A task that is neither in the queue nor in the table is gone. -/
theorem Subscribed.gone {s : EventSub × WorkerPhase} (h : Subscribed p s)
    (hqueue : p ∉ s.1.addTasks) (htable : ¬ s.1.InTable p) :
  s.1.Gone p
  := by
  refine ⟨?_, hqueue, h.allocated⟩
  intro id hid
  apply htable
  rw [InTable, h.consistent.id id p hid, hid]

theorem allocated_le_step {s t : EventSub} {a : EventSubAction} {o : List (Nat × TaskOutput)}
    (hstep : (eventSubMachine m).step s a = some (t, o)) :
  s.allocated ≤ t.allocated
  := by
  cases a with
  | subscribe =>
      obtain ⟨rfl, _⟩ := Prod.mk.inj (Option.some.inj hstep)
      apply Nat.le_succ
  | unsubscribe id =>
      obtain ⟨rfl, _⟩ := Prod.mk.inj (Option.some.inj hstep)
      apply Nat.le_refl
  | executeCancelTasks =>
      obtain ⟨rfl, _⟩ := Prod.mk.inj (Option.some.inj hstep)
      rw [executeCancelTasks]
      split <;> apply Nat.le_refl
  | executeAddTasks =>
      obtain ⟨rfl, _⟩ := Prod.mk.inj (Option.some.inj hstep)
      rw [executeAddTasks]
      split <;> apply Nat.le_refl
  | task q b =>
      obtain ⟨_, task, out, _, rfl, _⟩ := stepTask_eq_some hstep
      rw [enqueue_allocated]
      apply Nat.le_refl

theorem Subscribed.step {s t : EventSub × WorkerPhase} {a : EventSubAction}
    {o : List (Nat × TaskOutput)} (h : Subscribed p s)
    (hstep : (workerMachine m).step s a = some (t, o)) :
  Subscribed p t
  := by
  obtain ⟨hmodule, _⟩ := Machine.scheduled_step.mp hstep
  exact ⟨h.consistent.step hmodule, h.counted.step hmodule,
    h.allocated.trans_le (allocated_le_step hmodule)⟩

/-! ### Two drains -/

/-- After a drain of the cancellations the worker is about to add the new tasks. -/
theorem due_of_executeCancelTasks {s t : EventSub × WorkerPhase} {o : List (Nat × TaskOutput)}
    (hstep : (workerMachine m).step s .executeCancelTasks = some (t, o)) :
  Due p t
  := by
  obtain ⟨_, hphase⟩ := Machine.scheduled_step.mp hstep
  apply Due.drained (nextPhase_executeCancelTasks hphase).2

/-- The drain that a task is due for removes it. -/
theorem Due.gone_of_executeCancelTasks {s t : EventSub × WorkerPhase}
    {o : List (Nat × TaskOutput)} (h : Due p s) (hsub : Subscribed p s)
    (hfits : s.1.cancelTasks.length < 2 ^ 32)
    (hstep : (workerMachine m).step s .executeCancelTasks = some (t, o)) :
  t.1.Gone p
  := by
  obtain ⟨hmodule, hphase⟩ := Machine.scheduled_step.mp hstep
  obtain ⟨hbefore, _⟩ := nextPhase_executeCancelTasks hphase
  cases h with
  | gone hgone => apply hgone.step hmodule
  | queued htable hqueued =>
      apply (hsub.step hstep).gone
      · obtain ⟨heq, _⟩ := Prod.mk.inj (Option.some.inj hmodule)
        rw [← heq, executeCancelTasks_eq hsub.counted (takes_of_lt hfits)]
        apply htable
      · obtain ⟨heq, _⟩ := Prod.mk.inj (Option.some.inj hmodule)
        rw [← heq, executeCancelTasks_eq hsub.counted (takes_of_lt hfits), InTable,
          Table.getElem?_foldl_erase, if_pos hqueued]
        intro hnone
        cases hnone
  | visited _ hmem hvisiting =>
      rw [hvisiting] at hbefore
      obtain rfl := WorkerPhase.visiting.inj hbefore
      cases hmem
  | drained hdrained =>
      rw [hdrained] at hbefore
      cases hbefore

/-- Until then a task that is due stays due. -/
theorem Due.step {s t : EventSub × WorkerPhase} {a : EventSubAction}
    {o : List (Nat × TaskOutput)} (h : Due p s) (hsub : Subscribed p s)
    (hfits : QueuesFit s.1 a) (hcancels : VisitCancels p s.1 a) (ha : a ≠ .executeCancelTasks)
    (hstep : (workerMachine m).step s a = some (t, o)) :
  Due p t
  := by
  obtain ⟨s, phase⟩ := s
  obtain ⟨t, phase'⟩ := t
  obtain ⟨hmodule, hphase⟩ := Machine.scheduled_step.mp hstep
  have hafter := hsub.step hstep
  cases a with
  | subscribe =>
      obtain ⟨rfl, _⟩ := Prod.mk.inj (Option.some.inj hmodule)
      obtain rfl := Option.some.inj hphase
      have hother : p ∉ s.addTasks → p ∉ s.addTasks ++ [s.allocated] := by
        have hlt := hsub.allocated
        rw [List.mem_append, List.mem_singleton]
        rintro hnot (hmem | rfl)
        · apply hnot hmem
        · apply Nat.lt_irrefl _ hlt
      cases h with
      | gone hgone => exact .gone (hgone.step hmodule)
      | queued htable hqueued => exact .queued (hother htable) hqueued
      | visited htable hmem hvisiting => exact .visited (hother htable) hmem hvisiting
      | drained hdrained => exact .drained hdrained
  | unsubscribe id =>
      obtain ⟨rfl, _⟩ := Prod.mk.inj (Option.some.inj hmodule)
      obtain rfl := Option.some.inj hphase
      cases h with
      | gone hgone => exact .gone (hgone.step hmodule)
      | queued htable hqueued => exact .queued htable (List.mem_append_left _ hqueued)
      | visited htable hmem hvisiting => exact .visited htable hmem hvisiting
      | drained hdrained => exact .drained hdrained
  | executeCancelTasks => exact absurd rfl ha
  | executeAddTasks =>
      -- every task in the table is visited in this iteration
      have hempty : t.addTasks = [] := by
        obtain ⟨rfl, _⟩ := Prod.mk.inj (Option.some.inj hmodule)
        rw [executeAddTasks_eq hsub.counted (takes_of_lt hfits)]
      have hqueue : p ∉ t.addTasks := by
        rw [hempty]
        apply List.not_mem_nil
      by_cases htable : t.InTable p
      · cases phase with
        | visiting todo => cases hphase
        | cancelled =>
            apply Due.visited hqueue _ (Option.some.inj hphase).symm
            rw [ExtTreeMap.mem_keys, ExtTreeMap.mem_iff_isSome_getElem?, htable]
            rfl
      · apply Due.gone (hafter.gone hqueue htable)
  | task q b =>
      have hid := stepTask_id hmodule p
      obtain ⟨hreach, task, out, htask, rfl, _⟩ := stepTask_eq_some hmodule
      have hqueue : p ∉ s.addTasks → p ∉ ((s.setTask q task).enqueue out).addTasks := by
        rw [enqueue_addTasks]
        exact id
      cases h with
      | gone hgone => exact .gone (hgone.step hmodule)
      | queued htable hqueued =>
          apply Due.queued (hqueue htable)
          rw [hid, mem_cancelTasks_enqueue]
          apply Or.inl hqueued
      | drained hdrained =>
          dsimp only at hdrained
          subst hdrained
          cases b with
          | visit env => cases hphase
          | _ => apply Due.drained (Option.some.inj hphase).symm
      | @visited htable todo hmem hvisiting =>
          dsimp only at hvisiting
          subst hvisiting
          cases b with
          | visit env =>
              obtain ⟨todo', heq, _, hleft⟩ := nextPhase_visit hphase
              obtain rfl := WorkerPhase.visiting.inj heq
              by_cases hself : q = p
              · subst hself
                obtain ⟨rfl, rfl⟩ := Prod.mk.inj (Option.some.inj htask)
                apply Due.queued (hqueue htable)
                rw [hid, mem_cancelTasks_enqueue]
                apply Or.inr (hcancels env rfl)
              · by_cases hsame : (s.heap q).id = (s.heap p).id
                · -- the task under the id is the other one
                  apply Due.gone
                  apply hafter.gone (hqueue htable)
                  intro hin
                  rw [InTable, hid, ← hsame, enqueue_tasks] at hin
                  apply hself (Option.some.inj (hreach.symm.trans hin))
                · apply Due.visited (hqueue htable) _ hleft
                  rw [hid, stepTask_id hmodule q, List.mem_filter, decide_eq_true_eq]
                  exact ⟨hmem, Ne.symm hsame⟩
          | _ =>
              apply Due.visited (hqueue htable) _ (Option.some.inj hphase).symm
              rw [hid]
              apply hmem

/-- A drain of the cancellations. -/
def isDrain : EventSubAction → Bool
  | .executeCancelTasks => true
  | _ => false

/-- A task all whose visits queue its cancellation is gone after two drains. -/
theorem gone_of_cancelled {s t : EventSub × WorkerPhase} {as : List EventSubAction}
    {o e : List (Nat × TaskOutput)} (hsub : Subscribed p s)
    (hcancels : (workerMachine m).Along
      (fun _ s a => QueuesFit s.1 a ∧ VisitCancels p s.1 a) o s as)
    (hrun : (workerMachine m).run s as = some (t, e)) (htwo : 2 ≤ as.countP isDrain) :
  t.1.Gone p
  := by
  have hstages := hcancels.counted isDrain
    (I := fun n s => Subscribed p s ∧ (1 ≤ n → Due p s) ∧ (2 ≤ n → s.1.Gone p)) (by
      rintro n o s a t e ⟨hsub, hdue, hgone⟩ ⟨hfits, hcancels⟩ hstep
      obtain ⟨hmodule, _⟩ := Machine.scheduled_step.mp hstep
      refine ⟨hsub.step hstep, ?_, ?_⟩
      · cases a with
        | executeCancelTasks =>
            intro _
            apply due_of_executeCancelTasks hstep
        | _ =>
            intro hn
            exact (hdue hn).step hsub hfits hcancels nofun hstep
      · cases a with
        | executeCancelTasks =>
            intro hn
            have hone : 1 ≤ n := Nat.le_of_succ_le_succ hn
            apply (hdue hone).gone_of_executeCancelTasks hsub hfits hstep
        | _ =>
            intro hn
            apply (hgone hn).step hmodule)
    (n := 0) ⟨hsub, nofun, nofun⟩ hrun
  apply hstages.2.2
  rwa [Nat.zero_add]

/-! ### Tasks that come to an end -/

/-- A step leaves the cursor of a task where it is, or moves it forward. -/
theorem cursor_le_step {task next : LiveTask} {a : TaskAction} {out : List TaskOutput}
    (h : TaskStep m task a (next, out)) :
  task.cursor ≤ next.cursor
  := by
  have hcontinues : ∀ {env : Env} {b e : Int} {task next : LiveTask} {out : List TaskOutput},
      Continues env b e task (next, out) → next.cursor = task.cursor := by
    intro env b e task next out hr
    cases hr <;> rfl
  cases h with
  | opened _ _ _ hr =>
      rw [hcontinues hr]
      apply Int.le_refl
  | @fetched _ fetch _ _ _ _ _ _ hr =>
      rw [hcontinues hr, LiveTask.cursor_setCurrentBlockNumber, LiveTask.cursor_removeFetch]
      apply Int.le_max_left
  | _ => exact Int.le_refl _

theorem isCompleted_step {task next : LiveTask} {a : TaskAction} {out : List TaskOutput}
    (h : TaskStep m task a (next, out)) (hcompleted : task.isCompleted = true) :
  next.isCompleted = true
  := by
  have hle := cursor_le_step h
  have hparams : next.params = task.params := congrArg Subscription.params h.toSubscription_eq
  rw [EventSubTask.isCompleted] at hcompleted ⊢
  rw [hparams]
  split at hcompleted
  · cases hcompleted
  · rename_i hto
    rw [if_neg hto]
    rw [decide_eq_true_eq] at hcompleted ⊢
    apply Int.lt_of_lt_of_le hcompleted hle

/-- A visit to a task that is complete, or whose session is not connected, queues its
cancellation. -/
theorem mem_executeEventSubTask {task : LiveTask} {env : Env}
    (h : task.isCompleted = true ∨ env.isConnected task.session = false) :
  .unsubscribeEventSub task.id ∈ (task.executeEventSubTask env).2
  := by
  rw [LiveTask.executeEventSubTask]
  cases hcheck : task.checkConnAvailable env with
  | false => apply List.mem_singleton_self
  | true =>
      rcases h with hcompleted | hconn
      · rw [hcompleted]
        apply List.mem_cons_self
      · rw [LiveTask.checkConnAvailable, LiveTask.callback, LiveTask.sendEvents, hconn] at hcheck
        cases hcheck

/-- What every step of a task keeps, the steps of the module keep of it. -/
theorem heap_step {I : LiveTask → Prop}
    (keep : ∀ {task next a out}, I task → TaskStep m task a (next, out) → I next)
    {s t : EventSub × WorkerPhase} {a : EventSubAction} {o : List (Nat × TaskOutput)}
    (h : I (s.1.heap p)) (hstep : (workerMachine m).step s a = some (t, o)) :
  I (t.1.heap p)
  := by
  cases ha : actionOf p a with
  | none =>
      obtain ⟨hsame, _⟩ := (workerProjection m p).idle ha hstep
      have hheap : t.1.heap p = s.1.heap p := hsame
      rw [hheap]
      apply h
  | some b => apply keep h (taskMachine_step ((workerProjection m p).step ha hstep))

theorem toSubscription_step {sub : Subscription} {s t : EventSub × WorkerPhase}
    {a : EventSubAction} {o : List (Nat × TaskOutput)}
    (h : (s.1.heap p).toSubscription = sub)
    (hstep : (workerMachine m).step s a = some (t, o)) :
  (t.1.heap p).toSubscription = sub
  := by
  apply heap_step (I := fun task => task.toSubscription = sub) _ h hstep
  intro task next a out h hstep
  rw [hstep.toSubscription_eq, h]

/-- A task that is complete, and a task whose visits find its session not connected any more, is
gone after two drains of the cancellations: it is left neither in the table nor in the queue,
unless `2 ^ 32` requests wait in a queue when it is drained. -/
theorem gone_of_disconnected {subscriptions : Nat → Subscription}
    {before after : List EventSubAction} {s t : EventSub × WorkerPhase}
    {o e : List (Nat × TaskOutput)}
    (hrun : (workerMachine m).run (startWorker subscriptions) before = some (s, o))
    (hrest : (workerMachine m).run s after = some (t, e))
    (hfits : (workerMachine m).Along (fun _ s a => QueuesFit s.1 a) o s after)
    (htwo : 2 ≤ after.countP isDrain) (hp : p < s.1.allocated)
    (hends : (s.1.heap p).isCompleted = true
      ∨ ∀ env, .task p (.visit env) ∈ after →
        env.isConnected (subscriptions p).session = false) :
  t.1.Gone p
  := by
  have hreached := Machine.run_invariant (o := [])
    (I := fun _ s => (s.1.Consistent ∧ s.1.Counted) ∧ (s.1.heap p).toSubscription = subscriptions p)
    (by
      rintro o s a t e ⟨⟨hconsistent, hcounted⟩, hsame⟩ hstep
      obtain ⟨hmodule, _⟩ := Machine.scheduled_step.mp hstep
      exact ⟨⟨hconsistent.step hmodule, hcounted.step hmodule⟩, toSubscription_step hsame hstep⟩)
    ⟨⟨consistent_start subscriptions, counted_start subscriptions⟩, rfl⟩ hrun
  obtain ⟨⟨hconsistent, hcounted⟩, hsame⟩ := hreached
  have hcancels : (workerMachine m).Along
      (fun _ s a => QueuesFit s.1 a ∧ VisitCancels p s.1 a) o s after := by
    rcases hends with hcompleted | hconn
    · apply hfits.imp (I := fun _ s => (s.1.heap p).isCompleted = true)
      · intro o s a t e h _ hstep
        apply heap_step (fun h hstep => isCompleted_step hstep h) h hstep
      · intro o s a t e h hC _
        exact ⟨hC, fun _ _ => mem_executeEventSubTask (.inl h)⟩
      · apply hcompleted
    · have hmet := hfits.and_forall
        (P := fun a => ∀ env, a = .task p (.visit env) →
          env.isConnected (subscriptions p).session = false)
        (fun a ha env heq => hconn env (heq ▸ ha))
      apply hmet.imp (I := fun _ s => (s.1.heap p).toSubscription = subscriptions p)
      · intro o s a t e h _ hstep
        apply toSubscription_step h hstep
      · intro o s a t e h hC _
        refine ⟨hC.1, fun env ha => mem_executeEventSubTask (.inr ?_)⟩
        rw [show (s.1.heap p).session = (subscriptions p).session from
          congrArg Subscription.session h]
        apply hC.2 env ha
      · apply hsame
  apply gone_of_cancelled ⟨hconsistent, hcounted, hp⟩ hcancels hrest htwo

/-- A subscription of a session that has disconnected by the time its task is visited. -/
def visitDisconnected : List EventSubAction :=
  [.executeCancelTasks, .executeAddTasks,
    .task 0 (.visit ⟨fun _ => false, fun _ => true⟩), .executeCancelTasks]

theorem gone_of_disconnected_visit :
  ∃ s t o e, (workerMachine 10).run (startWorker fun _ => ⟨"1", "group0", ⟨0, ""⟩, {}⟩) [.subscribe]
      = some (s, o)
    ∧ (workerMachine 10).run s visitDisconnected = some (t, e) ∧ t.1.Gone 0
  := by
  have hconn : ∀ env, .task 0 (.visit env) ∈ visitDisconnected →
      env.isConnected ⟨0, ""⟩ = false := by
    simp [visitDisconnected]
  have hruns : ((workerMachine 10).run (startWorker fun _ => ⟨"1", "group0", ⟨0, ""⟩, {}⟩)
      [.subscribe]).map (fun r => (((workerMachine 10).run r.1 visitDisconnected).isSome,
        decide ((workerMachine 10).Along (fun _ s a => QueuesFit s.1 a) r.2 r.1 visitDisconnected),
        decide (0 < r.1.1.allocated))) = some (true, true, true) := by decide
  obtain ⟨⟨s, o⟩, hrun, heq⟩ := Option.map_eq_some_iff.mp hruns
  obtain ⟨hsome, heq⟩ := Prod.mk.inj heq
  obtain ⟨hfits, hp⟩ := Prod.mk.inj heq
  obtain ⟨⟨t, e⟩, hrest⟩ := Option.isSome_iff_exists.mp hsome
  exact ⟨s, t, o, e, hrun, hrest, gone_of_disconnected hrun hrest (of_decide_eq_true hfits)
    (by decide) (of_decide_eq_true hp) (Or.inr hconn)⟩

end EventSub
