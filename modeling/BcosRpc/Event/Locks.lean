import BcosRpc.Event.EventSub
import BcosRpc.Machine.LockedQueue

/-!
# The queues and their locks

`lockedMachine` takes `subscribeEventSub`, `unsubscribeEventSub`, `executeCancelTasks` and
`executeAddTasks` apart into their single steps, which interleave: any number of callers of the
first two, and the worker, which runs the other two in turns. Each of the queues is a
`LockedQueue`, so that `queues_served` holds of every run: nothing is lost or processed twice, and
nothing stops the worker from processing everything. A call or a drain that runs without an
interruption is the step of `EventSub` with its name.
-/

open Std

/-- Where the worker is in `executeWorker`. -/
inductive WorkerStage where
  | cancelling
  | adding
  | visiting
  deriving DecidableEq

/-- The queues with their locks, the worker, and the table of the tasks. -/
structure LockedEventSub where
  addTasks : LockedQueue Nat := {}
  cancelTasks : LockedQueue String := {}
  stage : WorkerStage := .cancelling
  tasks : ExtTreeMap String Nat := ∅

/-- The steps: of a caller or the worker at one of the queues, and of the worker when it has
visited the tasks. -/
inductive LockedAction where
  | add (a : QueueAction Nat)
  | cancel (a : QueueAction String)
  | visit

/-- What the steps show at each of the queues. -/
inductive LockedOutput where
  | add (x : QueueOutput Nat)
  | cancel (x : QueueOutput String)

/-- A step of the worker. -/
def LockedAction.isWorker : LockedAction → Bool
  | .add a => a.isDrain
  | .cancel a => a.isDrain
  | .visit => true

namespace LockedEventSub

/-- A step at the queue of the new tasks. The worker adds what it processes to the table, and
goes on when it has drained the queue. -/
def stepAdd (heap : Nat → LiveTask) (a : QueueAction Nat) (s : LockedEventSub) :
    Option (LockedEventSub × List LockedOutput) :=
  if a.isDrain ∧ s.stage ≠ .adding then none
  else
    ((queueMachine Nat).step s.addTasks a).map fun (queue, o) =>
      ({ s with
          addTasks := queue
          tasks := ((LockedQueue.processed o).map Prod.snd).foldl (EventSub.insertTask heap) s.tasks
          stage := if a.isDrain ∧ queue.Resting then .visiting else s.stage },
        o.map .add)

/-- A step at the queue of the cancellations. The worker erases what it processes from the
table, and goes on when it has drained the queue. -/
def stepCancel (a : QueueAction String) (s : LockedEventSub) :
    Option (LockedEventSub × List LockedOutput) :=
  if a.isDrain ∧ s.stage ≠ .cancelling then none
  else
    ((queueMachine String).step s.cancelTasks a).map fun (queue, o) =>
      ({ s with
          cancelTasks := queue
          tasks := ((LockedQueue.processed o).map Prod.snd).foldl ExtTreeMap.erase s.tasks
          stage := if a.isDrain ∧ queue.Resting then .adding else s.stage },
        o.map .cancel)

end LockedEventSub

/-- The machine of the queues. The ids of the tasks are in `heap`. -/
def lockedMachine (heap : Nat → LiveTask) : Machine LockedEventSub LockedAction LockedOutput where
  step s
    | .add a => s.stepAdd heap a
    | .cancel a => s.stepCancel a
    | .visit => if s.stage = .visiting then some ({ s with stage := .cancelling }, []) else none

namespace LockedEventSub

variable {heap : Nat → LiveTask} {s t : LockedEventSub} {o : List LockedOutput}

/-! ### One queue of the two -/

/-- What a step at the queue of the new tasks does. -/
theorem stepAdd_eq_some {a : QueueAction Nat} (h : s.stepAdd heap a = some (t, o)) :
  (a.isDrain = true → s.stage = .adding) ∧ ∃ queue e,
    (queueMachine Nat).step s.addTasks a = some (queue, e)
      ∧ t = { s with
          addTasks := queue
          tasks := ((LockedQueue.processed e).map Prod.snd).foldl (EventSub.insertTask heap) s.tasks
          stage := if a.isDrain ∧ queue.Resting then .visiting else s.stage }
      ∧ o = e.map .add
  := by
  obtain ⟨hturn, h⟩ := Option.ite_none_left_eq_some.mp h
  obtain ⟨⟨queue, e⟩, hstep, heq⟩ := Option.map_eq_some_iff.mp h
  cases heq
  constructor
  · intro hdrain
    by_contra hstage
    apply hturn ⟨hdrain, hstage⟩
  · exact ⟨queue, e, hstep, rfl, rfl⟩

/-- What a step at the queue of the cancellations does. -/
theorem stepCancel_eq_some {a : QueueAction String} (h : s.stepCancel a = some (t, o)) :
  (a.isDrain = true → s.stage = .cancelling) ∧ ∃ queue e,
    (queueMachine String).step s.cancelTasks a = some (queue, e)
      ∧ t = { s with
          cancelTasks := queue
          tasks := ((LockedQueue.processed e).map Prod.snd).foldl ExtTreeMap.erase s.tasks
          stage := if a.isDrain ∧ queue.Resting then .adding else s.stage }
      ∧ o = e.map .cancel
  := by
  obtain ⟨hturn, h⟩ := Option.ite_none_left_eq_some.mp h
  obtain ⟨⟨queue, e⟩, hstep, heq⟩ := Option.map_eq_some_iff.mp h
  cases heq
  constructor
  · intro hdrain
    by_contra hstage
    apply hturn ⟨hdrain, hstage⟩
  · exact ⟨queue, e, hstep, rfl, rfl⟩

theorem visit_eq_some (h : (lockedMachine heap).step s .visit = some (t, o)) :
  s.stage = .visiting ∧ t = { s with stage := .cancelling } ∧ o = []
  := by
  obtain ⟨hstage, h⟩ := Option.ite_none_right_eq_some.mp h
  cases h
  exact ⟨hstage, rfl, rfl⟩

/-- What the machine is for the queue of the new tasks. -/
def addProjection (heap : Nat → LiveTask) :
    Machine.Projection (lockedMachine heap) (queueMachine Nat) where
  state := addTasks
  action
    | .add a => some a
    | _ => none
  output
    | .add x => some x
    | _ => none
  idle {s a t o} hact hstep := by
    cases a with
    | add a => cases hact
    | cancel a =>
        obtain ⟨-, queue, e, -, rfl, rfl⟩ := stepCancel_eq_some hstep
        simp [List.filterMap_map]
    | visit =>
        obtain ⟨-, rfl, rfl⟩ := visit_eq_some hstep
        exact ⟨rfl, rfl⟩
  step {s a b t o} hact hstep := by
    cases a with
    | add a =>
        obtain ⟨-, queue, e, hqueue, rfl, rfl⟩ := stepAdd_eq_some hstep
        cases hact
        rw [hqueue, List.filterMap_map]
        simp
    | _ => cases hact

/-- What the machine is for the queue of the cancellations. -/
def cancelProjection (heap : Nat → LiveTask) :
    Machine.Projection (lockedMachine heap) (queueMachine String) where
  state := cancelTasks
  action
    | .cancel a => some a
    | _ => none
  output
    | .cancel x => some x
    | _ => none
  idle {s a t o} hact hstep := by
    cases a with
    | cancel a => cases hact
    | add a =>
        obtain ⟨-, queue, e, -, rfl, rfl⟩ := stepAdd_eq_some hstep
        simp [List.filterMap_map]
    | visit =>
        obtain ⟨-, rfl, rfl⟩ := visit_eq_some hstep
        exact ⟨rfl, rfl⟩
  step {s a b t o} hact hstep := by
    cases a with
    | cancel a =>
        obtain ⟨-, queue, e, hqueue, rfl, rfl⟩ := stepCancel_eq_some hstep
        cases hact
        rw [hqueue, List.filterMap_map]
        simp
    | _ => cases hact

@[simp]
theorem addOutputs_add (e : List (QueueOutput Nat)) :
  (addProjection heap).outputs (e.map .add) = e
  := by
  simp [Machine.Projection.outputs, addProjection, List.filterMap_map]

@[simp]
theorem cancelOutputs_add (e : List (QueueOutput Nat)) :
  (cancelProjection heap).outputs (e.map .add) = []
  := by
  simp [Machine.Projection.outputs, cancelProjection, List.filterMap_map]

@[simp]
theorem addOutputs_cancel (e : List (QueueOutput String)) :
  (addProjection heap).outputs (e.map .cancel) = []
  := by
  simp [Machine.Projection.outputs, addProjection, List.filterMap_map]

@[simp]
theorem cancelOutputs_cancel (e : List (QueueOutput String)) :
  (cancelProjection heap).outputs (e.map .cancel) = e
  := by
  simp [Machine.Projection.outputs, cancelProjection, List.filterMap_map]

/-! ### The worker alone -/

/-- The worker alone takes steps. -/
def WorkerRuns (heap : Nat → LiveTask) (s t : LockedEventSub) (o : List LockedOutput) : Prop :=
  ∃ as, (∀ a ∈ as, LockedAction.isWorker a = true) ∧ (lockedMachine heap).run s as = some (t, o)

theorem WorkerRuns.trans {u : LockedEventSub} {o' : List LockedOutput}
    (h : WorkerRuns heap s t o) (h' : WorkerRuns heap t u o') :
  WorkerRuns heap s u (o ++ o')
  := by
  obtain ⟨as, hworker, hrun⟩ := h
  obtain ⟨as', hworker', hrun'⟩ := h'
  use as ++ as'
  constructor
  · intro a ha
    rcases List.mem_append.mp ha with ha | ha
    · apply hworker a ha
    · apply hworker' a ha
  · apply (Machine.run_append _).mpr ⟨t, o, o', hrun, hrun', rfl⟩

theorem workerRuns_replicate {a : LockedAction} (ha : a.isWorker = true) {n : Nat}
    (hrun : (lockedMachine heap).run s (List.replicate n a) = some (t, o)) :
  WorkerRuns heap s t o
  := by
  use List.replicate n a
  constructor
  · intro b hb
    rw [List.eq_of_mem_replicate hb]
    apply ha
  · apply hrun

theorem workerRuns_visit (hstage : s.stage = .visiting) :
  WorkerRuns heap s { s with stage := .cancelling } []
  := by
  apply workerRuns_replicate (a := .visit) rfl (n := 1)
  apply (Machine.run_singleton _ s _).trans (if_pos hstage)

/-- In its turn the worker alone drains the queue of the new tasks to the end. -/
theorem workerRuns_add (heap : Nat → LiveTask) {q : LockedQueue Nat}
    {e : List (QueueOutput Nat)} (h : LockedQueue.RunsToRest s.addTasks q e)
    (hstage : s.stage = .adding) :
  ∃ t, WorkerRuns heap s t (e.map .add) ∧ t.stage = .visiting ∧ t.cancelTasks = s.cancelTasks
  := by
  have hdrains := h.lift (lockedMachine heap) addTasks cancelTasks (.add .drain) .add
    (fun s => s.stage = .adding) (fun t => t.stage = .visiting) (fun hstage hdrain hresting => by
      simp [lockedMachine, stepAdd, QueueAction.isDrain, queueMachine, hstage, hdrain, hresting])
    (fun hstage hdrain hresting => by
      simp [lockedMachine, stepAdd, QueueAction.isDrain, queueMachine, hstage, hdrain, hresting])
    hstage
  obtain ⟨n, t, hrun, hend, hcancel⟩ := hdrains
  exact ⟨t, workerRuns_replicate rfl hrun, hend, hcancel⟩

/-- In its turn the worker alone drains the queue of the cancellations to the end. -/
theorem workerRuns_cancel (heap : Nat → LiveTask) {q : LockedQueue String}
    {e : List (QueueOutput String)} (h : LockedQueue.RunsToRest s.cancelTasks q e)
    (hstage : s.stage = .cancelling) :
  ∃ t, WorkerRuns heap s t (e.map .cancel) ∧ t.stage = .adding ∧ t.addTasks = s.addTasks
  := by
  have hdrains := h.lift (lockedMachine heap) cancelTasks addTasks (.cancel .drain) .cancel
    (fun s => s.stage = .cancelling) (fun t => t.stage = .adding) (fun hstage hdrain hresting => by
      simp [lockedMachine, stepCancel, QueueAction.isDrain, queueMachine, hstage, hdrain, hresting])
    (fun hstage hdrain hresting => by
      simp [lockedMachine, stepCancel, QueueAction.isDrain, queueMachine, hstage, hdrain, hresting])
    hstage
  obtain ⟨n, t, hrun, hend, hadd⟩ := hdrains
  exact ⟨t, workerRuns_replicate rfl hrun, hend, hadd⟩

/-- The worker alone drains both queues to the end, from the stage it is in. -/
theorem workerRuns_both (heap : Nat → LiveTask) {q : LockedQueue Nat} {e : List (QueueOutput Nat)}
    {q' : LockedQueue String} {e' : List (QueueOutput String)}
    (hadd : LockedQueue.RunsToRest s.addTasks q e)
    (hcancel : LockedQueue.RunsToRest s.cancelTasks q' e') :
  ∃ t o, WorkerRuns heap s t o ∧ (addProjection heap).outputs o = e
    ∧ (cancelProjection heap).outputs o = e'
  := by
  cases hstage : s.stage with
  | cancelling =>
      obtain ⟨t, hruns, hturn, hsame⟩ := workerRuns_cancel heap hcancel hstage
      rw [← hsame] at hadd
      obtain ⟨u, hruns', -, -⟩ := workerRuns_add heap hadd hturn
      exact ⟨u, _, hruns.trans hruns', by simp, by simp⟩
  | adding =>
      obtain ⟨t, hruns, hturn, hsame⟩ := workerRuns_add heap hadd hstage
      rw [← hsame] at hcancel
      obtain ⟨u, hruns', -, -⟩ := workerRuns_cancel heap
        (s := { t with stage := .cancelling }) hcancel rfl
      exact ⟨u, _, (hruns.trans (workerRuns_visit hturn)).trans hruns', by simp, by simp⟩
  | visiting =>
      obtain ⟨t, hruns, hturn, hsame⟩ := workerRuns_cancel heap
        (s := { s with stage := .cancelling }) hcancel rfl
      rw [← hsame] at hadd
      obtain ⟨u, hruns', -, -⟩ := workerRuns_add heap hadd hturn
      exact ⟨u, _, ((workerRuns_visit hstage).trans hruns).trans hruns', by simp, by simp⟩

/-! ### All runs -/

/-- Fewer than `2 ^ 32` entries are pending in each of the queues. -/
def Bounded (s : LockedEventSub) : Prop :=
  s.addTasks.entries.length < 2 ^ 32 ∧ s.cancelTasks.entries.length < 2 ^ 32

instance (s : LockedEventSub) : Decidable s.Bounded := inferInstanceAs (Decidable (_ ∧ _))

/-- Unless a caller holds a lock, the worker alone can go on and process everything that was
pushed into the queues. -/
def CatchesUp (heap : Nat → LiveTask) (o : List LockedOutput) (s : LockedEventSub) : Prop :=
  ¬ s.addTasks.CallerHolds → ¬ s.cancelTasks.CallerHolds → ∃ t o', WorkerRuns heap s t o'
    ∧ LockedQueue.pushed ((addProjection heap).outputs o)
      = LockedQueue.processed ((addProjection heap).outputs (o ++ o'))
    ∧ LockedQueue.pushed ((cancelProjection heap).outputs o)
      = LockedQueue.processed ((cancelProjection heap).outputs (o ++ o'))

theorem served_of_run (heap : Nat → LiveTask) {as : List LockedAction}
    (hbound : (lockedMachine heap).Throughout (fun _ s => s.Bounded) [] {} as)
    (hrun : (lockedMachine heap).run {} as = some (t, o)) :
  LockedQueue.Served (as.filterMap (addProjection heap).action) t.addTasks
      ((addProjection heap).outputs o)
    ∧ LockedQueue.Served (as.filterMap (cancelProjection heap).action) t.cancelTasks
      ((cancelProjection heap).outputs o)
  := by
  constructor
  · apply LockedQueue.served_of_run _ ((addProjection heap).run hrun)
    apply (addProjection heap).throughout (hbound.imp fun _ s h => h.1) hrun
  · apply LockedQueue.served_of_run _ ((cancelProjection heap).run hrun)
    apply (cancelProjection heap).throughout (hbound.imp fun _ s h => h.2) hrun

/-- In every run with fewer than `2 ^ 32` pending entries at any time, both queues serve what is
pushed into them, and the worker catches up. -/
theorem queues_served (heap : Nat → LiveTask) {as : List LockedAction} {t : LockedEventSub}
    {o : List LockedOutput}
    (hbound : (lockedMachine heap).Throughout (fun _ s => s.Bounded) [] {} as)
    (hrun : (lockedMachine heap).run {} as = some (t, o)) :
  LockedQueue.Served (as.filterMap (addProjection heap).action) t.addTasks
      ((addProjection heap).outputs o)
    ∧ LockedQueue.Served (as.filterMap (cancelProjection heap).action) t.cancelTasks
      ((cancelProjection heap).outputs o)
    ∧ CatchesUp heap o t
  := by
  obtain ⟨hadd, hcancel⟩ := served_of_run heap hbound hrun
  use hadd, hcancel
  intro hheld hheld'
  obtain ⟨_, e, hruns, hpushed⟩ := hadd.finished hheld
  obtain ⟨_, e', hruns', hpushed'⟩ := hcancel.finished hheld'
  obtain ⟨u, o', hworker, rfl, rfl⟩ := workerRuns_both heap hruns hruns'
  use u, o', hworker
  simp only [Machine.Projection.outputs_append]
  exact ⟨hpushed, hpushed'⟩

/-- A task is pushed while the worker comes by: it does not see the task before the task is
counted, and adds it to the table in the next round. -/
def overtaken : List LockedAction :=
  [.add (.call 7), .cancel .drain, .add (.lock 0), .add .push, .add .drain, .add .increment,
    .visit, .cancel .drain, .add .drain, .add .unlock, .add .drain, .add .drain, .add .drain,
    .add .drain, .add .drain]

/-- Tasks that all have one id. -/
def oneId (_ : Nat) : LiveTask :=
  LiveTask.ofSubscription ⟨"id", "group", ⟨0, "127.0.0.1:1"⟩, {}⟩

theorem queues_served_overtaken :
  ∃ t o, (lockedMachine oneId).run {} overtaken = some (t, o)
    ∧ LockedQueue.Served (overtaken.filterMap (addProjection oneId).action) t.addTasks
      ((addProjection oneId).outputs o)
    ∧ LockedQueue.Served (overtaken.filterMap (cancelProjection oneId).action) t.cancelTasks
      ((cancelProjection oneId).outputs o)
    ∧ CatchesUp oneId o t
  := ⟨_, _, rfl, queues_served oneId (by decide) rfl⟩

end LockedEventSub
