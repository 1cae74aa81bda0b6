import BcosRpc.Event.EventSub
import BcosRpc.Machine.Schedule

/-!
# The iterations of the worker

An iteration of the worker drains the cancellations, then the new tasks, and visits every task
of the table once. `workerMachine` is the module with its worker: the requests of the clients
and the answers of the ledger come at any time, the steps of the worker in this order.
-/

open Std

/-- Where the worker is in an iteration: it has drained the cancellations, or the tasks under
some ids are still to be visited. -/
inductive WorkerPhase where
  | cancelled
  | visiting (todo : List String)
  deriving DecidableEq

namespace EventSub

/-- The phase after a step. The state is the one the step leads to. -/
def nextPhase (s : EventSub) (phase : WorkerPhase) : EventSubAction → Option WorkerPhase
  | .subscribe => some phase
  | .unsubscribe _ => some phase
  | .executeCancelTasks =>
      match phase with
      | .visiting [] => some .cancelled
      | _ => none
  | .executeAddTasks =>
      match phase with
      | .cancelled => some (.visiting s.tasks.keys)
      | .visiting _ => none
  | .task p (.visit _) =>
      match phase with
      | .cancelled => none
      | .visiting todo =>
          if (s.heap p).id ∈ todo then some (.visiting (todo.filter (· ≠ (s.heap p).id)))
          else none
  | .task _ (.blockNumber ..) => some phase
  | .task _ (.blockData ..) => some phase

end EventSub

/-- The module with its worker. -/
def workerMachine (maxBlockProcessPerLoop : Int) :
    Machine (EventSub × WorkerPhase) EventSubAction (Nat × TaskOutput) :=
  (eventSubMachine maxBlockProcessPerLoop).scheduled EventSub.nextPhase

/-- What the module with its worker is for a single task. -/
def workerProjection (m : Int) (p : Nat) :
    Machine.Projection (workerMachine m) (taskMachine m) :=
  (taskProjection m p).ofScheduled EventSub.nextPhase

namespace EventSub

/-- Before the first iteration no visit is left. -/
def startWorker (subscriptions : Nat → Subscription) : EventSub × WorkerPhase :=
  (start subscriptions, .visiting [])

variable {m : Int} {s t : EventSub}

/-- A step of a task. -/
theorem worker_step_task {phase phase' : WorkerPhase} {p : Nat} {a : TaskAction}
    {o : List (Nat × TaskOutput)} (hstep : s.stepTask m p a = some (t, o))
    (hphase : nextPhase t phase (.task p a) = some phase') :
  (workerMachine m).step (s, phase) (.task p a) = some ((t, phase'), o)
  := Machine.scheduled_step.mpr ⟨hstep, hphase⟩

/-- A visit is to a task that is left to visit, and the worker does not come back to it. -/
theorem nextPhase_visit {phase phase' : WorkerPhase} {p : Nat} {env : Env}
    (h : nextPhase t phase (.task p (.visit env)) = some phase') :
  ∃ todo, phase = .visiting todo ∧ (t.heap p).id ∈ todo
    ∧ phase' = .visiting (todo.filter (· ≠ (t.heap p).id))
  := by
  cases phase with
  | cancelled => cases h
  | visiting todo =>
      obtain ⟨hmem, h⟩ := Option.ite_none_right_eq_some.mp h
      exact ⟨todo, rfl, hmem, (Option.some.inj h).symm⟩

/-- The worker drains the cancellations at the start of an iteration. -/
theorem nextPhase_executeCancelTasks {phase phase' : WorkerPhase}
    (h : nextPhase t phase .executeCancelTasks = some phase') :
  phase = .visiting [] ∧ phase' = .cancelled
  := by
  cases phase with
  | cancelled => cases h
  | visiting todo =>
      cases todo with
      | nil => exact ⟨rfl, (Option.some.inj h).symm⟩
      | cons id todo => cases h

/-- The worker visits ids that are in the table. -/
def VisitsTable (s : EventSub × WorkerPhase) : Prop :=
  ∀ todo, s.2 = .visiting todo → ∀ id ∈ todo, id ∈ s.1.tasks

theorem visitsTable_start (subscriptions : Nat → Subscription) :
  VisitsTable (startWorker subscriptions)
  := by
  intro todo htodo id hid
  rw [← WorkerPhase.visiting.inj htodo] at hid
  cases hid

theorem visitsTable_step {s t : EventSub × WorkerPhase} {a : EventSubAction}
    {o : List (Nat × TaskOutput)} (h : VisitsTable s)
    (hstep : (workerMachine m).step s a = some (t, o)) :
  VisitsTable t
  := by
  obtain ⟨s, phase⟩ := s
  obtain ⟨t, phase'⟩ := t
  obtain ⟨hmodule, hphase⟩ := Machine.scheduled_step.mp hstep
  rintro todo rfl id hid
  cases a with
  | subscribe =>
      obtain ⟨rfl, _⟩ := Prod.mk.inj (Option.some.inj hmodule)
      apply h todo (Option.some.inj hphase) id hid
  | unsubscribe _ =>
      obtain ⟨rfl, _⟩ := Prod.mk.inj (Option.some.inj hmodule)
      apply h todo (Option.some.inj hphase) id hid
  | executeCancelTasks => cases (nextPhase_executeCancelTasks hphase).2
  | executeAddTasks =>
      cases phase with
      | visiting _ => cases hphase
      | cancelled =>
          rw [← WorkerPhase.visiting.inj (Option.some.inj hphase)] at hid
          apply ExtTreeMap.mem_keys.mp hid
  | task p b =>
      obtain ⟨_, _, _, _, rfl, _⟩ := stepTask_eq_some hmodule
      rw [enqueue_tasks]
      cases b with
      | visit _ =>
          obtain ⟨before, hbefore, _, hleft⟩ := nextPhase_visit hphase
          rw [WorkerPhase.visiting.inj hleft] at hid
          apply h before hbefore id (List.mem_of_mem_filter hid)
      | _ => apply h todo (Option.some.inj hphase) id hid

/-- The visits that are left in an iteration, in any order. -/
theorem run_worker_visits (m : Int) (env : Nat → Env) {order : List Nat} {todo : List String}
    (h : ∀ p ∈ order, s.InTable p) (hnodup : todo.Nodup)
    (htodo : todo.Perm (order.map fun p => (s.heap p).id)) :
  (workerMachine m).run (s, .visiting todo) (order.map fun p => .task p (.visit (env p)))
    = some (((s.executeEventSubTasks env order).1, .visiting []),
      (s.executeEventSubTasks env order).2)
  := by
  induction order generalizing s todo with
  | nil =>
      obtain rfl := htodo.eq_nil
      rfl
  | cons p order ih =>
      have hids : (order.map fun q => ((s.visitTask env p).1.heap q).id)
          = order.map fun q => (s.heap q).id := by
        simp only [id_visitTask]
      rw [List.map_cons] at htodo
      have hnotLeft := (List.nodup_cons.mp (htodo.nodup hnodup)).1
      have hleft : (todo.filter (· ≠ (s.heap p).id)).Perm
          (order.map fun q => ((s.visitTask env p).1.heap q).id) := by
        have hrestIds : (order.map fun q => (s.heap q).id).filter (· ≠ (s.heap p).id)
            = order.map fun q => (s.heap q).id := by
          rw [List.filter_eq_self]
          intro id hid
          rw [decide_eq_true_eq]
          rintro rfl
          apply hnotLeft hid
        have hfilter := htodo.filter (· ≠ (s.heap p).id)
        rw [List.filter_cons_of_neg (by simp), hrestIds] at hfilter
        rw [hids]
        apply hfilter
      have hrest := ih (fun q hq => inTable_visitTask env p (h q (List.mem_cons_of_mem _ hq)))
        (hnodup.filter _) hleft
      have hstep := stepTask_visit m env (h p List.mem_cons_self)
      have hphase : nextPhase (s.visitTask env p).1 (.visiting todo) (.task p (.visit (env p)))
          = some (.visiting (todo.filter (· ≠ (s.heap p).id))) := by
        simp only [nextPhase, id_visitTask]
        apply if_pos
        apply htodo.mem_iff.mpr List.mem_cons_self
      rw [List.map_cons]
      apply (Machine.run_cons _).mpr
      exact ⟨_, _, _, worker_step_task hstep hphase, hrest, rfl⟩

/-- An iteration that visits every task in the table once is a run of the module with its
worker. -/
theorem run_executeWorker (m : Int) (env : Nat → Env) {order : List Nat}
    (h : ∀ p ∈ order, s.executeCancelTasks.executeAddTasks.InTable p)
    (hall : s.executeCancelTasks.executeAddTasks.tasks.keys.Perm
      (order.map fun p => (s.heap p).id)) :
  (workerMachine m).run (s, .visiting []) (workerSteps env order)
    = some (((s.executeWorker env order).1, .visiting []), (s.executeWorker env order).2)
  := by
  have hnodup : s.executeCancelTasks.executeAddTasks.tasks.keys.Nodup :=
    ExtTreeMap.nodup_keys
  have hvisits := run_worker_visits m env h hnodup (by
    simp only [executeAddTasks_heap, executeCancelTasks_heap]
    apply hall)
  apply (Machine.run_cons _).mpr
  refine ⟨_, _, _, rfl, ?_, rfl⟩
  apply (Machine.run_cons _).mpr
  exact ⟨_, _, _, rfl, hvisits, rfl⟩

end EventSub
