import BcosRpc.Common.Table
import BcosRpc.Event.TaskMachine
import Mathlib.Logic.Function.Basic

/-!
# The event subscription

`EventSub` is the state of the subscription module: the queues of the tasks to add and of the
ids to cancel, the table of the tasks, and the task objects. Clients put into the queues, the
worker drains them and visits the tasks in the table, and the answers of the ledger reach a
task by the pointer their callbacks hold, whether it is in the table or not.

`eventSubMachine` interleaves these steps; `taskProjection` shows what a run of it is for a
single task.
-/

open Std

/-- The state of the module. The object with number `p` is the task of the `p`th subscription;
`allocated` of them exist. -/
structure EventSub where
  addTasks : List Nat := []
  addTaskCount : UInt32 := 0
  cancelTasks : List String := []
  cancelTaskCount : UInt32 := 0
  tasks : ExtTreeMap String Nat := ∅
  heap : Nat → LiveTask
  allocated : Nat := 0

namespace EventSub

/-- The module before the first request. The subscriptions are numbered as they will arrive. -/
def start (subscriptions : Nat → Subscription) : EventSub where
  heap p := LiveTask.ofSubscription (subscriptions p)

/-! ### The queues -/

def subscribeEventSub (task : Nat) (s : EventSub) : EventSub :=
  { s with addTasks := s.addTasks ++ [task], addTaskCount := s.addTaskCount + 1 }

def unsubscribeEventSub (id : String) (s : EventSub) : EventSub :=
  { s with cancelTasks := s.cancelTasks ++ [id], cancelTaskCount := s.cancelTaskCount + 1 }

/-- Add a task to a table, unless its id is in it. -/
def insertTask (heap : Nat → LiveTask) (tasks : ExtTreeMap String Nat) (task : Nat) :
    ExtTreeMap String Nat :=
  tasks.insertIfNew (heap task).id task

/-- After the insertion of tasks, an id has the task it had before, or else the first one
inserted under it. -/
theorem getElem?_foldl_insertTask (heap : Nat → LiveTask) (added : List Nat)
    (tasks : ExtTreeMap String Nat) (id : String) :
  (added.foldl (insertTask heap) tasks)[id]?
    = (tasks[id]?).or (added.find? fun p => (heap p).id = id)
  := by
  induction added generalizing tasks with
  | nil => simp
  | cons p added ih =>
      rw [List.foldl_cons, ih, insertTask, ExtTreeMap.getElem?_insertIfNew, List.find?_cons]
      by_cases hid : (heap p).id = id
      · subst hid
        cases htask : tasks[(heap p).id]? <;> simp [ExtTreeMap.mem_iff_isSome_getElem?, htask]
      · simp [hid]

def executeAddTasks (s : EventSub) : EventSub :=
  if s.addTaskCount = 0 then s
  else
    { s with
      tasks := s.addTasks.foldl (insertTask s.heap) s.tasks
      addTaskCount := 0
      addTasks := [] }

def executeCancelTasks (s : EventSub) : EventSub :=
  if s.cancelTaskCount = 0 then s
  else
    { s with
      tasks := s.cancelTasks.foldl ExtTreeMap.erase s.tasks
      cancelTaskCount := 0
      cancelTasks := [] }

/-! ### The objects -/

def setTask (p : Nat) (task : LiveTask) (s : EventSub) : EventSub :=
  { s with heap := Function.update s.heap p task }

@[simp]
theorem setTask_heap_self (p : Nat) (task : LiveTask) (s : EventSub) :
  (s.setTask p task).heap p = task
  := Function.update_self _ _ _

@[simp]
theorem setTask_heap_of_ne {p q : Nat} (h : q ≠ p) (task : LiveTask) (s : EventSub) :
  (s.setTask p task).heap q = s.heap q
  := Function.update_of_ne h _ _

/-- The cancellations among the outputs of a task reach the queue. -/
def enqueue (out : List TaskOutput) (s : EventSub) : EventSub :=
  out.foldl
    (fun s o =>
      match o with
      | .unsubscribeEventSub id => s.unsubscribeEventSub id
      | _ => s)
    s

/-- Only the queue of the cancellations changes. -/
theorem enqueue_eq (out : List TaskOutput) (s : EventSub) :
  s.enqueue out
    = { s with
        cancelTasks := (s.enqueue out).cancelTasks
        cancelTaskCount := (s.enqueue out).cancelTaskCount }
  := by
  induction out generalizing s with
  | nil => rfl
  | cons o out ih =>
      rw [enqueue, List.foldl_cons]
      cases o <;> apply ih

@[simp]
theorem enqueue_heap (out : List TaskOutput) (s : EventSub) :
  (s.enqueue out).heap = s.heap
  := by
    have same := congrArg EventSub.heap (enqueue_eq out s)
    apply same

@[simp]
theorem enqueue_tasks (out : List TaskOutput) (s : EventSub) :
  (s.enqueue out).tasks = s.tasks
  := by
    have same := congrArg EventSub.tasks (enqueue_eq out s)
    apply same

@[simp]
theorem enqueue_addTasks (out : List TaskOutput) (s : EventSub) :
  (s.enqueue out).addTasks = s.addTasks
  := by
    have same := congrArg EventSub.addTasks (enqueue_eq out s)
    apply same

@[simp]
theorem enqueue_addTaskCount (out : List TaskOutput) (s : EventSub) :
  (s.enqueue out).addTaskCount = s.addTaskCount
  := by
    have same := congrArg EventSub.addTaskCount (enqueue_eq out s)
    apply same

@[simp]
theorem enqueue_allocated (out : List TaskOutput) (s : EventSub) :
  (s.enqueue out).allocated = s.allocated
  := by
    have same := congrArg EventSub.allocated (enqueue_eq out s)
    apply same

/-- The cancellations queued are those among the outputs. -/
theorem mem_cancelTasks_enqueue {out : List TaskOutput} {s : EventSub} {id : String} :
  id ∈ (s.enqueue out).cancelTasks ↔ id ∈ s.cancelTasks ∨ .unsubscribeEventSub id ∈ out
  := by
  induction out generalizing s with
  | nil => simp [enqueue]
  | cons o out ih =>
      rw [enqueue, List.foldl_cons]
      cases o with
      | unsubscribeEventSub id' =>
          apply ih.trans
          simp [EventSub.unsubscribeEventSub, or_assoc]
      | _ =>
          apply ih.trans
          simp

@[simp]
theorem executeAddTasks_heap (s : EventSub) :
  s.executeAddTasks.heap = s.heap
  := by
  rw [executeAddTasks]
  split <;> rfl

@[simp]
theorem executeCancelTasks_heap (s : EventSub) :
  s.executeCancelTasks.heap = s.heap
  := by
  rw [executeCancelTasks]
  split <;> rfl

end EventSub

/-! ### The machine -/

/-- The steps of the module. A request of a client, a drain of a queue by the worker, or a
step of the task with a number. -/
inductive EventSubAction where
  | subscribe
  | unsubscribe (id : String)
  | executeCancelTasks
  | executeAddTasks
  | task (p : Nat) (action : TaskAction)

namespace EventSub

/-- Whether a task is in the table. -/
def InTable (s : EventSub) (p : Nat) : Prop := s.tasks[(s.heap p).id]? = some p

instance (s : EventSub) (p : Nat) : Decidable (s.InTable p) :=
  inferInstanceAs (Decidable (_ = _))

/-- The worker visits the tasks in the table, an answer reaches any task. -/
def Reaches (s : EventSub) (p : Nat) : TaskAction → Prop
  | .visit _ => s.InTable p
  | _ => True

instance (s : EventSub) (p : Nat) (a : TaskAction) : Decidable (s.Reaches p a) :=
  match a with
  | .visit _ => inferInstanceAs (Decidable (s.InTable p))
  | .blockNumber .. => isTrue trivial
  | .blockData .. => isTrue trivial

/-- A step of the task with a number. -/
def stepTask (maxBlockProcessPerLoop : Int) (p : Nat) (a : TaskAction) (s : EventSub) :
    Option (EventSub × List (Nat × TaskOutput)) :=
  if s.Reaches p a then
    ((taskMachine maxBlockProcessPerLoop).step (s.heap p) a).map fun r =>
      ((s.setTask p r.1).enqueue r.2, r.2.map (p, ·))
  else none

end EventSub

/-- The module as a machine. An output comes with the number of its task. -/
def eventSubMachine (maxBlockProcessPerLoop : Int) :
    Machine EventSub EventSubAction (Nat × TaskOutput) where
  step
    | s, .subscribe =>
        some ({ s with allocated := s.allocated + 1 }.subscribeEventSub s.allocated, [])
    | s, .unsubscribe id => some (s.unsubscribeEventSub id, [])
    | s, .executeCancelTasks => some (s.executeCancelTasks, [])
    | s, .executeAddTasks => some (s.executeAddTasks, [])
    | s, .task p a => s.stepTask maxBlockProcessPerLoop p a

namespace EventSub

variable {m : Int} {s t : EventSub}

theorem stepTask_eq_some {p : Nat} {a : TaskAction} {o : List (Nat × TaskOutput)}
    (h : s.stepTask m p a = some (t, o)) :
  s.Reaches p a ∧ ∃ task out, (taskMachine m).step (s.heap p) a = some (task, out)
    ∧ t = (s.setTask p task).enqueue out ∧ o = out.map (p, ·)
  := by
  obtain ⟨hreach, h⟩ := Option.ite_none_right_eq_some.mp h
  obtain ⟨⟨task, out⟩, hstep, heq⟩ := Option.map_eq_some_iff.mp h
  obtain ⟨rfl, rfl⟩ := Prod.mk.inj heq
  exact ⟨hreach, task, out, hstep, rfl, rfl⟩

/-- The action of a single task. -/
def actionOf (p : Nat) : EventSubAction → Option TaskAction
  | .task q a => if q = p then some a else none
  | _ => none

/-- The output of a single task. -/
def outputOf (p : Nat) (o : Nat × TaskOutput) : Option TaskOutput :=
  if o.1 = p then some o.2 else none

theorem actionOf_eq_some {p : Nat} {a : EventSubAction} {b : TaskAction} :
  actionOf p a = some b ↔ a = .task p b
  := by
  constructor
  · intro h
    cases a with
    | task q a =>
        obtain ⟨rfl, hab⟩ := Option.ite_none_right_eq_some.mp h
        rw [Option.some.inj hab]
    | _ => cases h
  · rintro rfl
    apply if_pos rfl

theorem filterMap_outputOf_self (p : Nat) (out : List TaskOutput) :
  (out.map (p, ·)).filterMap (outputOf p) = out
  := by
  induction out with
  | nil => rfl
  | cons o out ih => simp [outputOf, ih]

theorem filterMap_outputOf_of_ne {p q : Nat} (h : q ≠ p) (out : List TaskOutput) :
  (out.map (q, ·)).filterMap (outputOf p) = []
  := by
  induction out with
  | nil => rfl
  | cons o out ih => simp [outputOf, h, ih]

end EventSub

open EventSub in
/-- The steps of the module for a single task are steps of the task. -/
def taskProjection (m : Int) (p : Nat) :
    Machine.Projection (eventSubMachine m) (taskMachine m) where
  state s := s.heap p
  action := actionOf p
  output := outputOf p
  idle := by
    intro s a t e ha h
    cases a with
    | subscribe =>
        obtain ⟨rfl, rfl⟩ := Prod.mk.inj (Option.some.inj h)
        exact ⟨rfl, rfl⟩
    | unsubscribe id =>
        obtain ⟨rfl, rfl⟩ := Prod.mk.inj (Option.some.inj h)
        exact ⟨rfl, rfl⟩
    | executeCancelTasks =>
        obtain ⟨rfl, rfl⟩ := Prod.mk.inj (Option.some.inj h)
        exact ⟨congrFun (executeCancelTasks_heap s) p, rfl⟩
    | executeAddTasks =>
        obtain ⟨rfl, rfl⟩ := Prod.mk.inj (Option.some.inj h)
        exact ⟨congrFun (executeAddTasks_heap s) p, rfl⟩
    | task q a =>
        have hne : q ≠ p := by
          rintro rfl
          simp [actionOf] at ha
        obtain ⟨_, task, out, _, rfl, rfl⟩ := stepTask_eq_some h
        rw [enqueue_heap, filterMap_outputOf_of_ne hne]
        exact ⟨setTask_heap_of_ne hne.symm _ _, rfl⟩
  step := by
    intro s a b t e ha h
    obtain rfl := actionOf_eq_some.mp ha
    obtain ⟨_, task, out, hstep, rfl, rfl⟩ := stepTask_eq_some h
    rw [enqueue_heap, filterMap_outputOf_self, setTask_heap_self]
    apply hstep

/-! ### Consistency -/

/-- A step does not change what a task is subscribed to. -/
theorem TaskStep.toSubscription_eq {m : Int} {task : LiveTask} {a : TaskAction}
    {r : LiveTask × List TaskOutput} (h : TaskStep m task a r) :
  r.1.toSubscription = task.toSubscription
  := by
  cases h with
  | opened _ _ _ hr => cases hr <;> rfl
  | fetched _ _ hr => cases hr <;> rfl
  | _ => rfl

namespace EventSub

/-- A step of a task does not change what the tasks are subscribed to. -/
theorem stepTask_toSubscription {m : Int} {s t : EventSub} {p : Nat} {a : TaskAction}
    {o : List (Nat × TaskOutput)} (h : s.stepTask m p a = some (t, o)) (q : Nat) :
  (t.heap q).toSubscription = (s.heap q).toSubscription
  := by
  obtain ⟨_, task, out, htask, rfl, _⟩ := stepTask_eq_some h
  rw [enqueue_heap]
  by_cases hq : q = p
  · rw [hq, setTask_heap_self, (taskMachine_step htask).toSubscription_eq]
  · rw [setTask_heap_of_ne hq]

theorem stepTask_id {m : Int} {s t : EventSub} {p : Nat} {a : TaskAction}
    {o : List (Nat × TaskOutput)} (h : s.stepTask m p a = some (t, o)) (q : Nat) :
  (t.heap q).id = (s.heap q).id
  := congrArg Subscription.id (stepTask_toSubscription h q)

/-- A task is in the table under its own id, and a task is in the table or in the queue only
after its subscription, in one of them at a time. -/
structure Consistent (s : EventSub) : Prop where
  id : ∀ (id : String) (p : Nat), s.tasks[id]? = some p → (s.heap p).id = id
  table : ∀ (id : String) (p : Nat), s.tasks[id]? = some p → p < s.allocated ∧ p ∉ s.addTasks
  queue : ∀ p ∈ s.addTasks, p < s.allocated

theorem consistent_start (subscriptions : Nat → Subscription) :
  (start subscriptions).Consistent
  := by
  constructor
  · intro id p h
    rw [start, ExtTreeMap.getElem?_empty] at h
    cases h
  · intro id p h
    rw [start, ExtTreeMap.getElem?_empty] at h
    cases h
  · intro p hp
    cases hp

theorem Consistent.step {m : Int} {s t : EventSub} {a : EventSubAction}
    {o : List (Nat × TaskOutput)} (h : s.Consistent)
    (hstep : (eventSubMachine m).step s a = some (t, o)) :
  t.Consistent
  := by
  cases a with
  | subscribe =>
      obtain ⟨rfl, _⟩ := Prod.mk.inj (Option.some.inj hstep)
      constructor
      · apply h.id
      · intro id p hp
        obtain ⟨hlt, hnot⟩ := h.table id p hp
        constructor
        · apply Nat.lt_succ_of_lt hlt
        · simp only [subscribeEventSub, List.mem_append, List.mem_singleton]
          rintro (hmem | rfl)
          · apply hnot hmem
          · omega
      · intro p hp
        simp only [subscribeEventSub, List.mem_append, List.mem_singleton] at hp
        rcases hp with hp | rfl
        · apply Nat.lt_succ_of_lt (h.queue p hp)
        · apply Nat.lt_succ_self _
  | unsubscribe id =>
      obtain ⟨rfl, _⟩ := Prod.mk.inj (Option.some.inj hstep)
      exact ⟨h.id, h.table, h.queue⟩
  | executeCancelTasks =>
      obtain ⟨rfl, _⟩ := Prod.mk.inj (Option.some.inj hstep)
      rw [EventSub.executeCancelTasks]
      split
      · apply h
      · constructor
        · intro id p hp
          rw [Table.getElem?_foldl_erase] at hp
          apply h.id id p (Option.ite_none_left_eq_some.mp hp).2
        · intro id p hp
          rw [Table.getElem?_foldl_erase] at hp
          apply h.table id p (Option.ite_none_left_eq_some.mp hp).2
        · apply h.queue
  | executeAddTasks =>
      obtain ⟨rfl, _⟩ := Prod.mk.inj (Option.some.inj hstep)
      rw [EventSub.executeAddTasks]
      split
      · apply h
      · constructor
        · intro id p hp
          rw [getElem?_foldl_insertTask, Option.or_eq_some_iff] at hp
          rcases hp with hp | ⟨_, hp⟩
          · apply h.id id p hp
          · have hid := List.find?_some hp
            apply of_decide_eq_true hid
        · intro id p hp
          refine ⟨?_, List.not_mem_nil⟩
          rw [getElem?_foldl_insertTask, Option.or_eq_some_iff] at hp
          rcases hp with hp | ⟨_, hp⟩
          · apply (h.table id p hp).1
          · apply h.queue p (List.mem_of_find?_eq_some hp)
        · intro p hp
          cases hp
  | task q a =>
      have hid := stepTask_id hstep
      obtain ⟨_, task, out, _, rfl, _⟩ := stepTask_eq_some hstep
      constructor
      · intro id p hp
        rw [enqueue_tasks] at hp
        rw [hid]
        apply h.id id p hp
      · intro id p hp
        rw [enqueue_tasks] at hp
        rw [enqueue_allocated, enqueue_addTasks]
        apply h.table id p hp
      · intro p hp
        rw [enqueue_addTasks] at hp
        rw [enqueue_allocated]
        apply h.queue p hp

/-- Every state a run reaches is consistent. -/
theorem consistent_run {m : Int} {subscriptions : Nat → Subscription}
    {as : List EventSubAction} {t : EventSub} {o : List (Nat × TaskOutput)}
    (h : (eventSubMachine m).run (start subscriptions) as = some (t, o)) :
  t.Consistent
  := Machine.run_invariant (I := fun _ s => s.Consistent) (o := []) (fun hI => hI.step)
    (consistent_start subscriptions) h

/-! ### The worker -/

/-- The visit of the worker to a task. -/
def visitTask (env : Nat → Env) (p : Nat) (s : EventSub) :
    EventSub × List (Nat × TaskOutput) :=
  let r := (s.heap p).executeEventSubTask (env p)
  ((s.setTask p r.1).enqueue r.2, r.2.map (p, ·))

/-- The visits of an iteration. The table is not ordered, so the order is given. -/
def executeEventSubTasks (env : Nat → Env) :
    List Nat → EventSub → EventSub × List (Nat × TaskOutput)
  | [], s => (s, [])
  | p :: order, s =>
      let visited := s.visitTask env p
      let rest := visited.1.executeEventSubTasks env order
      (rest.1, visited.2 ++ rest.2)

/-- An iteration of the worker. -/
def executeWorker (env : Nat → Env) (order : List Nat) (s : EventSub) :
    EventSub × List (Nat × TaskOutput) :=
  s.executeCancelTasks.executeAddTasks.executeEventSubTasks env order

/-- The steps an iteration of the worker is made of. -/
def workerSteps (env : Nat → Env) (order : List Nat) : List EventSubAction :=
  .executeCancelTasks :: .executeAddTasks :: order.map fun p => .task p (.visit (env p))

/-- A visit does not change the ids. -/
theorem id_visitTask (env : Nat → Env) (p q : Nat) (s : EventSub) :
  ((s.visitTask env p).1.heap q).id = (s.heap q).id
  := by
  rw [visitTask, enqueue_heap]
  by_cases hqp : q = p
  · subst hqp
    rw [setTask_heap_self]
    apply congrArg Subscription.id
    apply (LiveTask.visit_step 0 (env q) (s.heap q)).toSubscription_eq
  · rw [setTask_heap_of_ne hqp]

/-- A visit leaves the table as it is. -/
theorem inTable_visitTask (env : Nat → Env) (p : Nat) {q : Nat} {s : EventSub}
    (h : s.InTable q) :
  (s.visitTask env p).1.InTable q
  := by
  rw [InTable, id_visitTask, visitTask, enqueue_tasks]
  apply h

/-- The worker visits a task in the table. -/
theorem stepTask_visit (m : Int) (env : Nat → Env) {p : Nat} {s : EventSub}
    (h : s.InTable p) :
  s.stepTask m p (.visit (env p)) = some (s.visitTask env p)
  := by
  rw [stepTask, if_pos (show s.Reaches p (.visit (env p)) from h)]
  rfl

theorem run_visits (m : Int) (env : Nat → Env) {order : List Nat} {s : EventSub}
    (h : ∀ p ∈ order, s.InTable p) :
  (eventSubMachine m).run s (order.map fun p => .task p (.visit (env p)))
    = some (s.executeEventSubTasks env order)
  := by
  induction order generalizing s with
  | nil => rfl
  | cons p order ih =>
      have hstep := stepTask_visit m env (h p List.mem_cons_self)
      have hrest := ih fun q hq => inTable_visitTask env p (h q (List.mem_cons_of_mem _ hq))
      rw [List.map_cons]
      apply (Machine.run_cons _).mpr
      exact ⟨_, _, _, hstep, hrest, rfl⟩

/-- An iteration of the worker that visits tasks in the table is a run of its steps. -/
theorem run_workerSteps (m : Int) (env : Nat → Env) {order : List Nat} {s : EventSub}
    (h : ∀ p ∈ order, s.executeCancelTasks.executeAddTasks.InTable p) :
  (eventSubMachine m).run s (workerSteps env order) = some (s.executeWorker env order)
  := by
  have hvisits := run_visits m env h
  apply (Machine.run_cons _).mpr
  refine ⟨_, _, _, rfl, ?_, rfl⟩
  apply (Machine.run_cons _).mpr
  exact ⟨_, _, _, rfl, hvisits, rfl⟩

end EventSub
