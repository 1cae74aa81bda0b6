import BcosRpc.Event.Completion
import BcosRpc.Event.Queues
import BcosRpc.Event.Worker

/-!
# Final completion

A task that sends `PUSH_COMPLETED` queues its own cancellation with the message, and the worker
removes it at the next drain, unless the counter of the cancellations has wrapped around to
zero. `EventSub.final_iff` says in which runs of the module with its worker the completion of a
task is final.
-/

namespace EventSub

variable {m : Int} {p : Nat}

/-- The completion of a task is final: the task sends `PUSH_COMPLETED` once, when its blocks
are processed, and is gone after the next drain of the cancellations. -/
structure Final (p : Nat) (toBlock : Int) (o : List TaskOutput) (s : EventSub × WorkerPhase) :
    Prop where
  once : CompletesOnce toBlock o
  removed : s.2 = .cancelled → sent o = true → s.1.Gone p

/-- The counter of the cancellations is not at zero when the worker drains them, while a task
that has sent `PUSH_COMPLETED` is in the table. -/
def Drains (p : Nat) (o : List TaskOutput) (s : EventSub) : EventSubAction → Prop
  | .executeCancelTasks =>
      sent o = true → s.InTable p → s.cancelTasks.length % 2 ^ 32 ≠ 0
  | _ => True

/-- A task in the table whose cancellation is queued, and which is visited no more in this
iteration. -/
structure Leaving (p : Nat) (s : EventSub × WorkerPhase) : Prop where
  table : s.1.InTable p
  queued : (s.1.heap p).id ∈ s.1.cancelTasks
  visited : ∃ todo, s.2 = .visiting todo ∧ (s.1.heap p).id ∉ todo

theorem Leaving.gone {s : EventSub × WorkerPhase} (h : Leaving p s) (hcons : s.1.Consistent)
    (hcount : s.1.cancelTaskCount ≠ 0) :
  s.1.executeCancelTasks.Gone p
  := by
  apply hcons.gone h.table
  rw [InTable, executeCancelTasks_heap, executeCancelTasks, if_neg hcount,
    Table.getElem?_foldl_erase, if_pos h.queued]
  intro hsome
  cases hsome

/-- A task on its way out stays so until the next drain of the cancellations. -/
theorem Leaving.step {s t : EventSub × WorkerPhase} {a : EventSubAction}
    {o : List (Nat × TaskOutput)} (h : Leaving p s) (hidle : actionOf p a = none)
    (ha : a ≠ .executeCancelTasks) (hstep : (workerMachine m).step s a = some (t, o)) :
  Leaving p t
  := by
  obtain ⟨s, phase⟩ := s
  obtain ⟨t, phase'⟩ := t
  obtain ⟨htable, hqueued, todo, rfl, hnot⟩ := h
  obtain ⟨hstep, hphase⟩ := Machine.scheduled_step.mp hstep
  cases a with
  | subscribe =>
      obtain ⟨rfl, _⟩ := Prod.mk.inj (Option.some.inj hstep)
      obtain rfl := Option.some.inj hphase
      exact ⟨htable, hqueued, todo, rfl, hnot⟩
  | unsubscribe id =>
      obtain ⟨rfl, _⟩ := Prod.mk.inj (Option.some.inj hstep)
      obtain rfl := Option.some.inj hphase
      exact ⟨htable, List.mem_append_left _ hqueued, todo, rfl, hnot⟩
  | executeCancelTasks => exact absurd rfl ha
  | executeAddTasks => cases hphase
  | task q b =>
      have hne : p ≠ q := by
        rintro rfl
        rw [actionOf_eq_some.mpr rfl] at hidle
        cases hidle
      obtain ⟨_, task, out, _, rfl, _⟩ := stepTask_eq_some hstep
      have hheap : ((s.setTask q task).enqueue out).heap p = s.heap p := by
        rw [enqueue_heap, setTask_heap_of_ne hne]
      constructor
      · rw [InTable, hheap, enqueue_tasks]
        apply htable
      · rw [hheap, mem_cancelTasks_enqueue]
        apply Or.inl hqueued
      · rw [hheap]
        cases b with
        | visit env =>
            obtain ⟨todo', heq, _, hleft⟩ := nextPhase_visit hphase
            obtain rfl := WorkerPhase.visiting.inj heq
            exact ⟨_, hleft, fun hmem => hnot (List.mem_of_mem_filter hmem)⟩
        | blockNumber env error head =>
            obtain rfl := Option.some.inj hphase
            exact ⟨todo, rfl, hnot⟩
        | blockData env fetch error block =>
            obtain rfl := Option.some.inj hphase
            exact ⟨todo, rfl, hnot⟩

/-- The visit that sends `PUSH_COMPLETED` queues the cancellation of the task. -/
theorem leaving_of_completed {s t : EventSub × WorkerPhase} {a : EventSubAction} {env : Env}
    {o : List (Nat × TaskOutput)} {session : WsSession} (ha : actionOf p a = some (.visit env))
    (hstep : (workerMachine m).step s a = some (t, o))
    (hsame : t.1.heap p = s.1.heap p)
    (hout : o.filterMap (outputOf p)
      = [.unsubscribeEventSub (s.1.heap p).id, .pushCompleted session (s.1.heap p).id]) :
  Leaving p t
  := by
  obtain ⟨s, phase⟩ := s
  obtain ⟨t, phase'⟩ := t
  obtain ⟨hstep, hphase⟩ := Machine.scheduled_step.mp hstep
  obtain rfl := actionOf_eq_some.mp ha
  obtain ⟨hin, task, out, _, rfl, rfl⟩ := stepTask_eq_some hstep
  rw [filterMap_outputOf_self] at hout
  constructor
  · rw [InTable, hsame, enqueue_tasks]
    apply hin
  · rw [hsame, mem_cancelTasks_enqueue, hout]
    apply Or.inr List.mem_cons_self
  · obtain ⟨todo, _, _, hleft⟩ := nextPhase_visit hphase
    refine ⟨_, hleft, ?_⟩
    simp

/-- A task that has sent `PUSH_COMPLETED`: no request of it is unanswered, and it is gone or on
its way out. -/
structure Done (p : Nat) (toBlock : Int) (o : List TaskOutput) (s : EventSub × WorkerPhase) :
    Prop where
  ended : Ended toBlock o
  queries : (s.1.heap p).blockNumberQueries = 0
  fetches : (s.1.heap p).blockFetches = []
  leaves : s.1.Gone p ∨ Leaving p s

/-- A task that is done takes no step. -/
theorem Done.actionOf_eq_none {toBlock : Int} {o : List TaskOutput}
    {s t : EventSub × WorkerPhase} {a : EventSubAction} {e : List (Nat × TaskOutput)}
    (h : Done p toBlock o s) (hstep : (workerMachine m).step s a = some (t, e)) :
  actionOf p a = none
  := by
  cases hact : actionOf p a with
  | none => rfl
  | some b =>
      exfalso
      have htask := (workerProjection m p).step hact hstep
      obtain ⟨hmodule, hphase⟩ := Machine.scheduled_step.mp hstep
      cases b with
      | visit env =>
          obtain rfl := actionOf_eq_some.mp hact
          obtain ⟨todo, htodo, hmem, _⟩ := nextPhase_visit hphase
          rcases h.leaves with hgone | hleaving
          · apply hgone.table _ (stepTask_eq_some hmodule).1
          · obtain ⟨todo', htodo', hnot⟩ := hleaving.visited
            rw [htodo] at htodo'
            obtain rfl := WorkerPhase.visiting.inj htodo'
            rw [stepTask_id hmodule] at hmem
            apply hnot hmem
      | blockNumber env error head =>
          obtain ⟨hquery, _⟩ := Option.ite_none_right_eq_some.mp htask
          apply Nat.lt_irrefl 0
          apply Nat.lt_of_lt_of_eq hquery h.queries
      | blockData env fetch error block =>
          obtain ⟨hfetch, _⟩ := Option.ite_none_right_eq_some.mp htask
          apply List.ne_nil_of_mem hfetch h.fetches

/-- What is known of a task in a run in which the cancellations are drained. -/
structure FinalInvariant (p : Nat) (toBlock : Int) (o : List TaskOutput)
    (s : EventSub × WorkerPhase) : Prop where
  consistent : s.1.Consistent
  counted : s.1.Counted
  last : (s.1.heap p).params.toBlock = toBlock
  tracked : Tracked o (s.1.heap p)
  done : sent o = false ∨ Done p toBlock o s

theorem FinalInvariant.start {subscriptions : Nat → Subscription}
    (h : 0 < (subscriptions p).params.toBlock) :
  FinalInvariant p (subscriptions p).params.toBlock [] (startWorker subscriptions)
  := by
  constructor
  · apply consistent_start
  · apply counted_start
  · rfl
  · apply Tracked.start h
  · apply Or.inl rfl

theorem FinalInvariant.final {toBlock : Int} {o : List TaskOutput} {s : EventSub × WorkerPhase}
    (h : FinalInvariant p toBlock o s) :
  Final p toBlock o s
  := by
  constructor
  · rcases h.done with hnot | hdone
    · apply completesOnce_of_not_sent hnot
    · apply hdone.ended.completesOnce
  · intro hphase hsent
    rcases h.done with hnot | hdone
    · rw [hnot] at hsent
      cases hsent
    · rcases hdone.leaves with hgone | hleaving
      · apply hgone
      · obtain ⟨todo, htodo, _⟩ := hleaving.visited
        rw [hphase] at htodo
        cases htodo

/-- A task that is done stays done when the worker drains its cancellation. -/
theorem FinalInvariant.done_step {toBlock : Int} {o : List TaskOutput}
    {s t : EventSub × WorkerPhase} {a : EventSubAction} {e : List (Nat × TaskOutput)}
    (h : FinalInvariant p toBlock o s) (hdone : Done p toBlock o s) (hdrains : Drains p o s.1 a)
    (hstep : (workerMachine m).step s a = some (t, e)) :
  Done p toBlock o t
  := by
  have hidle := hdone.actionOf_eq_none hstep
  have hsame : t.1.heap p = s.1.heap p := ((workerProjection m p).idle hidle hstep).1
  have hmodule := (Machine.scheduled_step.mp hstep).1
  constructor
  · apply hdone.ended
  · rw [hsame, hdone.queries]
  · rw [hsame, hdone.fetches]
  · rcases hdone.leaves with hgone | hleaving
    · apply Or.inl (hgone.step hmodule)
    · by_cases ha : a = .executeCancelTasks
      · subst ha
        have heq : s.1.executeCancelTasks = t.1 := (Prod.mk.inj (Option.some.inj hmodule)).1
        have hlength := hdrains hdone.ended.sent_eq_true hleaving.table
        have hgone := hleaving.gone h.consistent
          (mt h.counted.cancelTaskCount_eq_zero_iff.mp hlength)
        rw [heq] at hgone
        apply Or.inl hgone
      · apply Or.inr (hleaving.step hidle ha hstep)

/-- The outputs of the task in a step of the module. -/
theorem FinalInvariant.sent_step {toBlock : Int} {o : List TaskOutput}
    {s t : EventSub × WorkerPhase} {a : EventSubAction} {e : List (Nat × TaskOutput)}
    (h : FinalInvariant p toBlock o s) (hnot : sent o = false)
    (hanswered : ∀ b ∈ actionOf p a, Answered (s.1.heap p) b)
    (hstep : (workerMachine m).step s a = some (t, e)) :
  sent (o ++ e.filterMap (outputOf p)) = false
    ∨ Done p toBlock (o ++ e.filterMap (outputOf p)) t
  := by
  cases hact : actionOf p a with
  | none =>
      have hout : e.filterMap (outputOf p) = [] := ((workerProjection m p).idle hact hstep).2
      rw [hout, List.append_nil]
      apply Or.inl hnot
  | some b =>
      have htask := (workerProjection m p).step hact hstep
      rcases (taskMachine_step htask).sent_cases with hnone | ⟨⟨env, rfl⟩, hcompleted, hsame, hout⟩
      · apply Or.inl
        rw [sent_append, hnot]
        apply hnone
      · apply Or.inr
        have hsame : t.1.heap p = s.1.heap p := hsame
        have hout : e.filterMap (outputOf p) = [.unsubscribeEventSub (s.1.heap p).id,
          .pushCompleted (s.1.heap p).session (s.1.heap p).id] := hout
        constructor
        · rw [hout, ← h.last]
          apply h.tracked.ended hnot hcompleted
        · rw [hsame]
          apply hanswered _ hact
        · rw [hsame]
          apply (h.tracked.of_completed hcompleted).1
        · apply Or.inr (leaving_of_completed hact hstep hsame hout)

theorem FinalInvariant.step {toBlock : Int} {s t : EventSub × WorkerPhase} {a : EventSubAction}
    {o e : List (Nat × TaskOutput)} (h : FinalInvariant p toBlock (o.filterMap (outputOf p)) s)
    (hanswered : ∀ b ∈ actionOf p a, Answered (s.1.heap p) b)
    (hdrains : Drains p (o.filterMap (outputOf p)) s.1 a)
    (hstep : (workerMachine m).step s a = some (t, e)) :
  FinalInvariant p toBlock ((o ++ e).filterMap (outputOf p)) t
  := by
  have hmodule := (Machine.scheduled_step.mp hstep).1
  have htracked := (workerProjection m p).keep (o := o)
    (I := fun o task => Tracked o task ∧ task.params.toBlock = toBlock)
    (C := fun _ task b => Answered task b)
    (fun hI hC htask => ⟨hI.1.step hC htask, by
      rw [show _ = _ from congrArg Subscription.params (taskMachine_step htask).toSubscription_eq]
      apply hI.2⟩)
    ⟨h.tracked, h.last⟩ hanswered hstep
  constructor
  · apply h.consistent.step hmodule
  · apply h.counted.step hmodule
  · apply htracked.2
  · apply htracked.1
  · rw [List.filterMap_append]
    rcases h.done with hnot | hdone
    · apply h.sent_step hnot hanswered hstep
    · have hidle := hdone.actionOf_eq_none hstep
      have hout : e.filterMap (outputOf p) = [] := ((workerProjection m p).idle hidle hstep).2
      rw [hout, List.append_nil]
      apply Or.inr (h.done_step hdone hdrains hstep)

/-- When the counter of the cancellations is at zero, a task that is done stays in the table. -/
theorem Final.drains {toBlock : Int} {s t : EventSub × WorkerPhase} {a : EventSubAction}
    {o e : List (Nat × TaskOutput)} (hcounted : s.1.Counted)
    (hstep : (workerMachine m).step s a = some (t, e))
    (hfinal : Final p toBlock ((o ++ e).filterMap (outputOf p)) t) :
  Drains p (o.filterMap (outputOf p)) s.1 a
  := by
  obtain ⟨hmodule, hphase⟩ := Machine.scheduled_step.mp hstep
  cases a with
  | executeCancelTasks =>
      intro hsent htable hlength
      have hzero := hcounted.cancelTaskCount_eq_zero_iff.mpr hlength
      obtain ⟨heq, rfl⟩ := Prod.mk.inj (Option.some.inj hmodule)
      rw [executeCancelTasks, if_pos hzero] at heq
      rw [List.append_nil] at hfinal
      have hgone := hfinal.removed (nextPhase_executeCancelTasks hphase).2 hsent
      rw [← heq] at hgone
      apply hgone.table _ htable
  | _ => trivial

/-- When a task is visited only after its queries are answered, its completion is final
throughout a run exactly when its cancellation is drained. -/
theorem exact_final (m : Int) (p : Nat) (toBlock : Int) :
  Machine.Exact (workerMachine m)
    (fun o s => FinalInvariant p toBlock (o.filterMap (outputOf p)) s)
    (fun o s => Final p toBlock (o.filterMap (outputOf p)) s)
    (fun _ s a => ∀ b ∈ actionOf p a, Answered (s.1.heap p) b)
    (fun o s a => Drains p (o.filterMap (outputOf p)) s.1 a)
  := by
  constructor
  · intro o s h
    apply h.final
  · intro o s a t e h hanswered hdrains hstep
    apply h.step hanswered hdrains hstep
  · intro o s a t e h _ hstep hfinal
    apply hfinal.drains h.counted hstep

/-- In a run of the module with its worker in which a task with a last block is visited only
after its queries of the block number are answered, the completion of the task is final exactly
when, at every drain of the cancellations at which the task has sent `PUSH_COMPLETED` and is in
the table, the number of cancellations in the queue is no multiple of `2 ^ 32`. -/
theorem final_iff (m : Int) (subscriptions : Nat → Subscription) (p : Nat)
    {as : List EventSubAction} (hto : 0 < (subscriptions p).params.toBlock)
    (hanswered : (workerMachine m).Along
      (fun _ s a => ∀ b ∈ actionOf p a, Answered (s.1.heap p) b)
      [] (startWorker subscriptions) as) :
  (workerMachine m).Throughout
      (fun o s => Final p (subscriptions p).params.toBlock (o.filterMap (outputOf p)) s)
      [] (startWorker subscriptions) as
    ↔ (workerMachine m).Along (fun o s a => Drains p (o.filterMap (outputOf p)) s.1 a)
      [] (startWorker subscriptions) as
  := (exact_final m p _).throughout_iff (FinalInvariant.start hto) hanswered

/-- A task for the block 5 whose visit sends `PUSH_COMPLETED`. -/
def completingVisits : List EventSubAction :=
  let env : Env := ⟨fun _ => true, fun _ => true⟩
  [.subscribe, .executeCancelTasks, .executeAddTasks, .task 0 (.visit env),
    .task 0 (.blockNumber env none 5), .task 0 (.blockData env ⟨5, 5⟩ none ⟨none, [], []⟩),
    .executeCancelTasks, .executeAddTasks, .task 0 (.visit env)]

/-- The subscription for the block 5. -/
def blockFive : Subscription :=
  ⟨"1", "group0", ⟨0, ""⟩, { fromBlock := 5, toBlock := 5 }⟩

theorem final_iff_completingVisits :
  (workerMachine 10).Throughout
      (fun o s => Final 0 blockFive.params.toBlock (o.filterMap (outputOf 0)) s)
      [] (startWorker fun _ => blockFive) (completingVisits ++ [.executeCancelTasks])
    ↔ (workerMachine 10).Along (fun o s a => Drains 0 (o.filterMap (outputOf 0)) s.1 a)
      [] (startWorker fun _ => blockFive) (completingVisits ++ [.executeCancelTasks])
  := final_iff 10 (fun _ => blockFive) 0 (by decide) (by decide)

/-- Cancellations only fill the queue. -/
theorem run_unsubscribes (m : Int) (s : EventSub) (phase : WorkerPhase) (id : String) (n : Nat) :
  ∃ t : EventSub, (workerMachine m).run (s, phase) (List.replicate n (.unsubscribe id))
      = some ((t, phase), [])
    ∧ t.tasks = s.tasks ∧ t.heap = s.heap
    ∧ t.cancelTasks.length = s.cancelTasks.length + n
  := by
  induction n generalizing s with
  | zero => exact ⟨s, rfl, rfl, rfl, rfl⟩
  | succ n ih =>
      obtain ⟨t, hrun, htasks, hheap, hlength⟩ := ih (s.unsubscribeEventSub id)
      refine ⟨t, ?_, htasks, hheap, ?_⟩
      · rw [List.replicate_succ]
        apply (Machine.run_cons _).mpr
        exact ⟨(s.unsubscribeEventSub id, phase), [], [], rfl, hrun, rfl⟩
      · rw [hlength, unsubscribeEventSub, List.length_append, List.length_singleton]
        omega

/-- In every state a run of the module with its worker reaches, the counters count the entries
of the queues. -/
theorem counted_worker_run {subscriptions : Nat → Subscription} {as : List EventSubAction}
    {t : EventSub × WorkerPhase} {o : List (Nat × TaskOutput)}
    (h : (workerMachine m).run (startWorker subscriptions) as = some (t, o)) :
  t.1.Counted
  := Machine.run_invariant (I := fun _ s => s.1.Counted) (o := [])
    (fun hI hstep => hI.step (Machine.scheduled_step.mp hstep).1)
    (counted_start subscriptions) h

/-- When `2 ^ 32` cancellations are in the queue, a task that has sent `PUSH_COMPLETED` is not
removed. -/
theorem final_counterexample :
  ¬ ∀ (m : Int) (subscriptions : Nat → Subscription) (p : Nat) (as : List EventSubAction),
    0 < (subscriptions p).params.toBlock →
    (workerMachine m).Along (fun _ s a => ∀ b ∈ actionOf p a, Answered (s.1.heap p) b)
      [] (startWorker subscriptions) as →
    (workerMachine m).Throughout
      (fun o s => Final p (subscriptions p).params.toBlock (o.filterMap (outputOf p)) s)
      [] (startWorker subscriptions) as
  := by
  intro h
  obtain ⟨n, hn⟩ : ∃ n, n + 1 = 2 ^ 32 := ⟨2 ^ 32 - 1, rfl⟩
  have hcompleting : ((workerMachine 10).run (startWorker fun _ => blockFive)
      completingVisits).map (fun r => (r.1.2, decide (r.1.1.InTable 0),
        r.1.1.cancelTasks.length, sent (r.2.filterMap (outputOf 0))))
      = some (.visiting [], true, 1, true) := by decide
  obtain ⟨⟨⟨s, phase⟩, o⟩, hrun, heq⟩ := Option.map_eq_some_iff.mp hcompleting
  obtain ⟨hphase, heq⟩ := Prod.mk.inj heq
  obtain rfl : phase = .visiting [] := hphase
  obtain ⟨hin, heq⟩ := Prod.mk.inj heq
  obtain ⟨hone, hsent⟩ := Prod.mk.inj heq
  obtain ⟨t, hcancels, htasks, hheap, hlength⟩ := run_unsubscribes 10 s (.visiting []) "2" n
  have hwaiting := ((workerMachine 10).run_append).mpr ⟨_, _, _, hrun, hcancels, rfl⟩
  -- the counter has wrapped around, so the drain does nothing
  have hfull : t.cancelTasks.length = n + 1 := by
    rw [hlength, show s.cancelTasks.length = 1 from hone, Nat.add_comm]
  have hzero : t.cancelTaskCount = 0 := by
    apply (counted_worker_run hwaiting).cancelTaskCount_eq_zero_iff.mpr
    rw [hfull, hn, Nat.mod_self]
  have hkept : t.executeCancelTasks = t := by
    rw [executeCancelTasks, if_pos hzero]
  have hdrain : (workerMachine 10).run (t, .visiting []) [.executeCancelTasks]
      = some ((t.executeCancelTasks, .cancelled), []) := rfl
  have hwhole := ((workerMachine 10).run_append).mpr ⟨_, _, _, hwaiting, hdrain, rfl⟩
  have hanswered : (workerMachine 10).Along
      (fun _ s a => ∀ b ∈ actionOf 0 a, Answered (s.1.heap 0) b) []
      (startWorker fun _ => blockFive)
      ((completingVisits ++ List.replicate n (.unsubscribe "2")) ++ [.executeCancelTasks]) := by
    rw [List.append_assoc]
    apply Machine.Along.append
    · decide
    · apply Machine.along_of_forall_mem
      intro a ha o s b hb
      rcases List.mem_append.mp ha with ha | ha
      · obtain rfl := List.eq_of_mem_replicate ha
        cases hb
      · obtain rfl := List.mem_singleton.mp ha
        cases hb
  have hthrough := h 10 (fun _ => blockFive) 0 _ (by decide) hanswered
  have hfinal := Machine.throughout_iff_run.mp hthrough _ (List.prefix_refl _) _ _ hwhole
  have hgone := hfinal.removed rfl (by simpa using hsent)
  rw [hkept] at hgone
  apply hgone.table (t.heap 0).id
  rw [htasks, hheap]
  apply of_decide_eq_true hin

end EventSub
