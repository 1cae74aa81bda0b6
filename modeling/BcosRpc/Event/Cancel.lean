import BcosRpc.Event.EventSub

/-!
# Cancelled tasks

A task that is removed from the table is never visited again, but the answers to its
unanswered requests still reach it. `EventSub.noEffect_iff` says which of these answers make
it push events or queue a cancellation.
-/

/-- An effect on a client or on the queue of the cancellations. -/
def TaskOutput.isEffect : TaskOutput → Bool
  | .pushEvents .. => true
  | .pushCompleted .. => true
  | .unsubscribeEventSub _ => true
  | _ => false

/-- None of the outputs is an effect. -/
def NoEffect (o : List TaskOutput) : Prop := ∀ x ∈ o, x.isEffect = false

theorem noEffect_append (o o' : List TaskOutput) :
  NoEffect (o ++ o') ↔ NoEffect o ∧ NoEffect o'
  := List.forall_mem_append

/-- A block has events for the session of a task, which is connected. -/
def Delivers (env : Env) (block : Block) (task : LiveTask) : Prop :=
  (EventSubMatcher.matchesBlock task.params block []).1 ≠ 0 ∧ env.isConnected task.session = true

/-- A step of a task that is in no table and has no effect: no batch goes on with a block of
a group without node service, and no block has events for a connected session. -/
def Harmless (m : Int) (task : LiveTask) : TaskAction → Prop
  | .visit _ => True
  | .blockNumber env error head =>
      Error.failed error = false → task.startBlock head ≤ head →
        task.startBlock head ≤ task.endBlock m head → env.hasNodeService task.group = true
  | .blockData env fetch error block =>
      Error.failed error = false → ¬ Delivers env block task
        ∧ (fetch.blockNumber + 1 ≤ fetch.endBlockNumber → env.hasNodeService task.group = true)

/-- The messages for a block are no effect exactly when it delivers nothing. -/
theorem noEffect_pushed_iff (env : Env) (block : Block) (task : LiveTask) :
  NoEffect (task.pushed env block) ↔ ¬ Delivers env block task
  := by
  rw [LiveTask.pushed, Delivers]
  by_cases hcount : (EventSubMatcher.matchesBlock task.params block []).1 = 0
  · simp [hcount, NoEffect]
  · have hne := EventSubMatcher.matchesBlock_ne_nil hcount
    cases hconn : env.isConnected task.session with
    | false => simp [hcount, LiveTask.callback, LiveTask.sendEvents, hconn, NoEffect]
    | true =>
        simp [hcount, LiveTask.callback, LiveTask.sendEvents, hconn, NoEffect, hne,
          TaskOutput.isEffect]

/-- A batch goes on without effect unless the group has no node service. -/
theorem Continues.silent_iff {env : Env} {task next : LiveTask} {b e : Int}
    {out : List TaskOutput} (h : Continues env b e task (next, out)) :
  NoEffect out ↔ (b ≤ e → env.hasNodeService task.group = true)
  := by
  cases h with
  | ended hlt =>
      have hle : ¬ b ≤ e := by omega
      simp [NoEffect, hle]
  | noNodeService hle hservice => simp [NoEffect, TaskOutput.isEffect, hle, hservice]
  | fetch hle hservice => simp [NoEffect, TaskOutput.isEffect, hle, hservice]

/-- An answer has no effect exactly when it is harmless. -/
theorem TaskStep.harmless_iff {m : Int} {task next : LiveTask} {a : TaskAction}
    {out : List TaskOutput} (h : TaskStep m task a (next, out)) (ha : ∀ env, a ≠ .visit env) :
  NoEffect out ↔ Harmless m task a
  := by
  cases h with
  | disconnected _ => exact absurd rfl (ha _)
  | completed _ _ => exact absurd rfl (ha _)
  | working _ _ => exact absurd rfl (ha _)
  | noNodeService _ _ _ => exact absurd rfl (ha _)
  | asked _ _ _ => exact absurd rfl (ha _)
  | queryFailed _ herror => simp [NoEffect, Harmless, herror]
  | waiting _ _ hlt =>
      simp only [NoEffect, Harmless, List.not_mem_nil, false_imp_iff, implies_true, true_iff]
      intro _ hle
      omega
  | @opened env error head _ _ herror hstart hr =>
      rw [hr.silent_iff]
      simp only [Harmless, herror, hstart, true_imp_iff]
      rfl
  | fetchFailed _ herror => simp [NoEffect, TaskOutput.isEffect, Harmless, herror]
  | @fetched env fetch error block _ rest _ herror hr =>
      rw [noEffect_append, noEffect_pushed_iff, ← List.singleton_append, noEffect_append,
        hr.silent_iff]
      simp only [Harmless, herror, true_imp_iff]
      apply and_congr_right
      intro _
      simp only [NoEffect, List.mem_singleton, forall_eq, TaskOutput.isEffect, true_and]
      rfl

namespace EventSub

variable {m : Int} {s t : EventSub} {p : Nat}

/-- A task that is neither in the table nor in the queue, and is not subscribed any more. -/
structure Gone (s : EventSub) (p : Nat) : Prop where
  table : ∀ (id : String), s.tasks[id]? ≠ some p
  queue : p ∉ s.addTasks
  allocated : p < s.allocated

/-- A task in the table that a drain of the cancellations removes is gone. -/
theorem Consistent.gone (h : s.Consistent) (hin : s.InTable p)
    (hremoved : ¬ s.executeCancelTasks.InTable p) :
  s.executeCancelTasks.Gone p
  := by
  obtain ⟨hlt, hqueue⟩ := h.table _ p hin
  have htable : ∀ (id : String), s.executeCancelTasks.tasks[id]? ≠ some p := by
    intro id hid
    apply hremoved
    rw [InTable, executeCancelTasks_heap]
    have hold : s.tasks[id]? = some p := by
      rw [executeCancelTasks] at hid
      split at hid
      · apply hid
      · rw [Table.getElem?_foldl_erase] at hid
        apply (Option.ite_none_left_eq_some.mp hid).2
    rw [h.id id p hold]
    apply hid
  rw [executeCancelTasks] at htable ⊢
  split
  · rename_i hcount
    rw [if_pos hcount] at htable
    exact ⟨htable, hqueue, hlt⟩
  · rename_i hcount
    rw [if_neg hcount] at htable
    exact ⟨htable, hqueue, hlt⟩

/-- A task that is gone stays gone. -/
theorem Gone.step {a : EventSubAction} {o : List (Nat × TaskOutput)} (h : s.Gone p)
    (hstep : (eventSubMachine m).step s a = some (t, o)) :
  t.Gone p
  := by
  obtain ⟨htable, hqueue, hlt⟩ := h
  cases a with
  | subscribe =>
      obtain ⟨rfl, _⟩ := Prod.mk.inj (Option.some.inj hstep)
      refine ⟨htable, ?_, Nat.lt_succ_of_lt hlt⟩
      simp only [subscribeEventSub, List.mem_append, List.mem_singleton]
      rintro (hmem | rfl)
      · apply hqueue hmem
      · omega
  | unsubscribe id =>
      obtain ⟨rfl, _⟩ := Prod.mk.inj (Option.some.inj hstep)
      exact ⟨htable, hqueue, hlt⟩
  | executeCancelTasks =>
      obtain ⟨rfl, _⟩ := Prod.mk.inj (Option.some.inj hstep)
      rw [EventSub.executeCancelTasks]
      split
      · exact ⟨htable, hqueue, hlt⟩
      · refine ⟨?_, hqueue, hlt⟩
        intro id hid
        rw [Table.getElem?_foldl_erase] at hid
        apply htable id (Option.ite_none_left_eq_some.mp hid).2
  | executeAddTasks =>
      obtain ⟨rfl, _⟩ := Prod.mk.inj (Option.some.inj hstep)
      rw [EventSub.executeAddTasks]
      split
      · exact ⟨htable, hqueue, hlt⟩
      · refine ⟨?_, List.not_mem_nil, hlt⟩
        intro id hid
        rw [getElem?_foldl_insertTask, Option.or_eq_some_iff] at hid
        rcases hid with hid | ⟨_, hid⟩
        · apply htable id hid
        · apply hqueue (List.mem_of_find?_eq_some hid)
  | task q b =>
      obtain ⟨_, task, out, _, rfl, _⟩ := stepTask_eq_some hstep
      refine ⟨?_, ?_, ?_⟩
      · rw [enqueue_tasks]
        apply htable
      · rw [enqueue_addTasks]
        apply hqueue
      · rw [enqueue_allocated]
        apply hlt

/-- A task that is gone is not visited, so a step of it has no effect exactly when it is
harmless. -/
theorem Gone.harmless_iff {a : EventSubAction} {b : TaskAction} {o : List (Nat × TaskOutput)}
    (h : s.Gone p) (hb : actionOf p a = some b)
    (hstep : (eventSubMachine m).step s a = some (t, o)) :
  NoEffect (o.filterMap (outputOf p)) ↔ Harmless m (s.heap p) b
  := by
  have htask := taskMachine_step ((taskProjection m p).step hb hstep)
  apply htask.harmless_iff
  rintro env rfl
  obtain rfl := actionOf_eq_some.mp hb
  apply h.table _ (stepTask_eq_some hstep).1

/-- A task that is gone has no effect throughout a run exactly when its steps are
harmless. -/
theorem exact_noEffect (m : Int) (p : Nat) :
  Machine.Exact (eventSubMachine m)
    (fun o s => s.Gone p ∧ NoEffect (o.filterMap (outputOf p)))
    (fun o _ => NoEffect (o.filterMap (outputOf p)))
    (fun _ _ _ => True) (fun _ s a => ∀ b ∈ actionOf p a, Harmless m (s.heap p) b)
  := by
  constructor
  · intro o s h
    apply h.2
  · rintro o s a t e ⟨hgone, hnone⟩ _ hC hstep
    use hgone.step hstep
    rw [List.filterMap_append, noEffect_append]
    use hnone
    cases hact : actionOf p a with
    | none =>
        have hidle : e.filterMap (outputOf p) = [] := ((taskProjection m p).idle hact hstep).2
        rw [hidle]
        exact nofun
    | some b => exact (hgone.harmless_iff hact hstep).mpr (hC b hact)
  · rintro o s a t e ⟨hgone, _⟩ _ hstep hP b hb
    rw [List.filterMap_append, noEffect_append] at hP
    apply (hgone.harmless_iff hb hstep).mp hP.2

/-- After a drain of the cancellations has removed a task from the table, the task pushes
nothing and queues no cancellation throughout a run exactly when no answer to a request it
made before opens or continues a batch of a group without node service, or brings a block
with events while the session is connected. -/
theorem noEffect_iff {subscriptions : Nat → Subscription} {earlier : List EventSubAction}
    {o : List (Nat × TaskOutput)}
    (hrun : (eventSubMachine m).run (start subscriptions) earlier = some (s, o))
    (hin : s.InTable p) (hremoved : ¬ s.executeCancelTasks.InTable p)
    (later : List EventSubAction) :
  (eventSubMachine m).Throughout (fun o _ => NoEffect (o.filterMap (outputOf p))) []
      s.executeCancelTasks later
    ↔ (eventSubMachine m).Along (fun _ s a => ∀ b ∈ actionOf p a, Harmless m (s.heap p) b) []
      s.executeCancelTasks later
  := by
  apply (exact_noEffect m p).throughout_iff
  · use (consistent_run hrun).gone hin hremoved
    exact nofun
  · apply Machine.along_of_forall
    intro o s a
    trivial

/-- A task with a block in flight whose cancellation waits in the queue. -/
def cancelInFlight : List EventSubAction :=
  let env : Env := ⟨fun _ => true, fun _ => true⟩
  [.subscribe, .executeAddTasks, .task 0 (.visit env), .task 0 (.blockNumber env none 5),
    .unsubscribe "1"]

/-- The answer with the block in flight, which has a log entry. -/
def lateBlock : TaskAction :=
  .blockData ⟨fun _ => true, fun _ => true⟩ ⟨5, 5⟩ none
    ⟨none, [default], [{ (default : TransactionReceipt) with logEntries := [⟨"", [], []⟩] }]⟩

theorem noEffect_iff_cancelInFlight :
  ∃ s o, (eventSubMachine 10).run (start fun _ => ⟨"1", "group0", ⟨0, ""⟩, {}⟩) cancelInFlight
      = some (s, o)
    ∧ ((eventSubMachine 10).Throughout (fun o _ => NoEffect (o.filterMap (outputOf 0))) []
        s.executeCancelTasks [.task 0 lateBlock]
      ↔ (eventSubMachine 10).Along
        (fun _ s a => ∀ b ∈ actionOf 0 a, Harmless 10 (s.heap 0) b) []
        s.executeCancelTasks [.task 0 lateBlock])
  := by
  have hrun : ((eventSubMachine 10).run (start fun _ => ⟨"1", "group0", ⟨0, ""⟩, {}⟩)
      cancelInFlight).map (fun r => (decide (r.1.InTable 0),
        decide (r.1.executeCancelTasks.InTable 0))) = some (true, false) := by decide
  obtain ⟨⟨s, o⟩, hrun, heq⟩ := Option.map_eq_some_iff.mp hrun
  obtain ⟨hin, hremoved⟩ := Prod.mk.inj heq
  use s, o, hrun
  apply noEffect_iff hrun (of_decide_eq_true hin) (of_decide_eq_false hremoved) _

/-- The block in flight when a task is removed still has its events pushed. -/
theorem noEffect_counterexample :
  ¬ ∀ (m : Int) (subscriptions : Nat → Subscription) (p : Nat) (earlier : List EventSubAction)
      (s : EventSub) (o : List (Nat × TaskOutput)),
    (eventSubMachine m).run (start subscriptions) earlier = some (s, o) → s.InTable p →
      ¬ s.executeCancelTasks.InTable p → ∀ later : List EventSubAction,
        (eventSubMachine m).Throughout (fun o _ => NoEffect (o.filterMap (outputOf p))) []
          s.executeCancelTasks later
  := by
  intro h
  have hrun : ((eventSubMachine 10).run (start fun _ => ⟨"1", "group0", ⟨0, ""⟩, {}⟩)
      cancelInFlight).map (fun r => (decide (r.1.InTable 0),
        decide (r.1.executeCancelTasks.InTable 0),
        ((eventSubMachine 10).run r.1.executeCancelTasks [.task 0 lateBlock]).map
          fun r => (r.2.filterMap (outputOf 0)).any TaskOutput.isEffect))
      = some (true, false, some true) := by decide
  obtain ⟨⟨s, o⟩, hrun, heq⟩ := Option.map_eq_some_iff.mp hrun
  obtain ⟨hin, heq⟩ := Prod.mk.inj heq
  obtain ⟨hremoved, hlate⟩ := Prod.mk.inj heq
  obtain ⟨⟨t, e⟩, hlate, heffect⟩ := Option.map_eq_some_iff.mp hlate
  have hthrough := h 10 _ 0 cancelInFlight s o hrun (of_decide_eq_true hin)
    (of_decide_eq_false hremoved) [.task 0 lateBlock]
  have hnone := Machine.throughout_iff_run.mp hthrough _ (List.prefix_refl _) t e hlate
  obtain ⟨x, hx, hxe⟩ := List.any_eq_true.mp heffect
  rw [hnone x (by rwa [List.nil_append])] at hxe
  cases hxe

end EventSub
