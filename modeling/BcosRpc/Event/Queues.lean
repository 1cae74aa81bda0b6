import BcosRpc.Event.EventSub
import Mathlib.Algebra.Group.Nat.Defs

/-!
# Order of the requests

The requests of the clients go into two queues, and the worker drains the cancellations
before the new tasks. `finalTable` is the table after a sequence of requests and drains and a
last drain, `sequentialTable` the one after the requests one by one.
`EventSub.finalTable_eq_iff` says for which sequences the two are the same. A drain leaves a
queue whose length is a non-zero multiple of `2 ^ 32`, for its counter is at zero.
-/

open Std

/-- A request of a client, or a drain of both queues. -/
inductive QueueCall where
  | subscribe (task : Nat)
  | unsubscribe (id : String)
  | drain
  deriving DecidableEq

namespace EventSub

/-- The worker drains both queues. -/
def drain (s : EventSub) : EventSub := s.executeCancelTasks.executeAddTasks

def call (s : EventSub) : QueueCall → EventSub
  | .subscribe task => s.subscribeEventSub task
  | .unsubscribe id => s.unsubscribeEventSub id
  | .drain => s.drain

def callAll (s : EventSub) (calls : List QueueCall) : EventSub := calls.foldl call s

/-- The table after the calls and a last drain. -/
def finalTable (s : EventSub) (calls : List QueueCall) : ExtTreeMap String Nat :=
  (s.callAll calls).drain.tasks

/-- The effect of a request on the table when it is applied at once. -/
def applyNow (heap : Nat → LiveTask) (tasks : ExtTreeMap String Nat) :
    QueueCall → ExtTreeMap String Nat
  | .subscribe task => insertTask heap tasks task
  | .unsubscribe id => tasks.erase id
  | .drain => tasks

/-- The table after the requests one at a time, in the order they arrive in. -/
def sequentialTable (s : EventSub) (calls : List QueueCall) : ExtTreeMap String Nat :=
  calls.foldl (applyNow s.heap) s.tasks

/-! ### What the drains take -/

/-- A drain takes a queue of `n` entries: its counter has not wrapped around to zero. -/
def Takes (n : Nat) : Prop := n % 2 ^ 32 = 0 → n = 0

theorem takes_of_lt {n : Nat} (h : n < 2 ^ 32) :
  Takes n
  := by
  rw [Takes, Nat.mod_eq_of_lt h]
  exact id

/-- When calls begin with `adds` and `cancels` requests in the queues, every drain takes both
queues, the last one included. -/
def DrainsTake : Nat → Nat → List QueueCall → Prop
  | adds, cancels, [] => Takes adds ∧ Takes cancels
  | adds, cancels, .drain :: calls => (Takes adds ∧ Takes cancels) ∧ DrainsTake 0 0 calls
  | adds, cancels, .subscribe _ :: calls => DrainsTake (adds + 1) cancels calls
  | adds, cancels, .unsubscribe _ :: calls => DrainsTake adds (cancels + 1) calls

/-- What a drain takes of a queue: nothing when its counter is at zero, and else all. -/
def taken {α : Type} (queue : List α) : List α := if queue.length % 2 ^ 32 = 0 then [] else queue

/-- What a drain leaves of a queue. -/
def left {α : Type} (queue : List α) : List α := if queue.length % 2 ^ 32 = 0 then queue else []

/-- The requests that a drain takes, the cancellations first. -/
def takenBoth (adds : List Nat) (cancels : List String) : List QueueCall :=
  (taken cancels).map .unsubscribe ++ (taken adds).map .subscribe

/-- The requests of calls in the order the drains take them, the last one included, when the
calls begin with `adds` and `cancels` in the queues. -/
def takenOrder : List Nat → List String → List QueueCall → List QueueCall
  | adds, cancels, [] => takenBoth adds cancels
  | adds, cancels, .drain :: calls =>
      takenBoth adds cancels ++ takenOrder (left adds) (left cancels) calls
  | adds, cancels, .subscribe task :: calls => takenOrder (adds ++ [task]) cancels calls
  | adds, cancels, .unsubscribe id :: calls => takenOrder adds (cancels ++ [id]) calls

/-! ### The requests for an id -/

section

variable (heap : Nat → LiveTask) (id : String)

/-- The task a call subscribes under an id. -/
def subscribedBy : QueueCall → Option Nat
  | .subscribe task => if (heap task).id = id then some task else none
  | _ => none

@[simp]
theorem subscribedBy_unsubscribe (id' : String) :
  subscribedBy heap id (.unsubscribe id') = none
  := rfl

@[simp]
theorem subscribedBy_drain :
  subscribedBy heap id .drain = none
  := rfl

/-- The first task that calls subscribe under an id. -/
def firstSubscription (calls : List QueueCall) : Option Nat :=
  calls.findSome? (subscribedBy heap id)

/-- The first task that waits under an id after a call, from the one before it. -/
def waiting (task : Option Nat) : QueueCall → Option Nat
  | .drain => none
  | call => task.or (subscribedBy heap id call)

/-- The first task that calls subscribe under an id after the last drain. -/
def pendingSubscription (calls : List QueueCall) : Option Nat :=
  calls.foldl (waiting heap id) none

end

/-- The calls after the last cancellation of an id, or all of them when there is none. -/
def afterUnsubscribe (id : String) : List QueueCall → List QueueCall
  | [] => []
  | c :: calls =>
      if .unsubscribe id ∈ calls then afterUnsubscribe id calls
      else if c = .unsubscribe id then calls
      else c :: calls

/-- The task that is subscribed first under an id after its last cancellation is the same in
the order in which the drains take the requests. -/
def TakenAlike (heap : Nat → LiveTask) (id : String) (calls : List QueueCall) : Prop :=
  firstSubscription heap id (afterUnsubscribe id (takenOrder [] [] calls))
    = firstSubscription heap id (afterUnsubscribe id calls)

/-- The last cancellation of an id overtakes no subscription of it: the first task that is
subscribed under the id and still waits when the cancellation arrives is the first one
subscribed after it. -/
def NotOvertaken (heap : Nat → LiveTask) (id : String) (calls : List QueueCall) : Prop :=
  ∀ earlier later, calls = earlier ++ .unsubscribe id :: later →
    .unsubscribe id ∉ later →
    ∀ task, pendingSubscription heap id earlier = some task →
      firstSubscription heap id later = some task

/-! ### The queues and the counters -/

/-- The counters count the entries of the queues. -/
structure Counted (s : EventSub) : Prop where
  add : s.addTaskCount.toNat = s.addTasks.length % 2 ^ 32
  cancel : s.cancelTaskCount.toNat = s.cancelTasks.length % 2 ^ 32

theorem counted_start (subscriptions : Nat → Subscription) :
  (start subscriptions).Counted
  := ⟨rfl, rfl⟩

namespace Counted

variable {s : EventSub}

theorem subscribeEventSub (h : s.Counted) (task : Nat) :
  (s.subscribeEventSub task).Counted
  := by
  constructor
  · simp only [EventSub.subscribeEventSub, UInt32.toNat_add, h.add, List.length_append]
    simp
  · apply h.cancel

theorem unsubscribeEventSub (h : s.Counted) (id : String) :
  (s.unsubscribeEventSub id).Counted
  := by
  constructor
  · apply h.add
  · simp only [EventSub.unsubscribeEventSub, UInt32.toNat_add, h.cancel, List.length_append]
    simp

theorem executeAddTasks (h : s.Counted) :
  s.executeAddTasks.Counted
  := by
  rw [EventSub.executeAddTasks]
  split
  · apply h
  · exact ⟨rfl, h.cancel⟩

theorem executeCancelTasks (h : s.Counted) :
  s.executeCancelTasks.Counted
  := by
  rw [EventSub.executeCancelTasks]
  split
  · apply h
  · exact ⟨h.add, rfl⟩

theorem enqueue (h : s.Counted) (out : List TaskOutput) :
  (s.enqueue out).Counted
  := by
  induction out generalizing s with
  | nil => apply h
  | cons o out ih =>
      cases o with
      | unsubscribeEventSub id => apply ih (h.unsubscribeEventSub id)
      | _ => apply ih h

theorem step {m : Int} {t : EventSub} {a : EventSubAction} {o : List (Nat × TaskOutput)}
    (h : s.Counted) (hstep : (eventSubMachine m).step s a = some (t, o)) :
  t.Counted
  := by
  cases a with
  | subscribe =>
      obtain ⟨rfl, _⟩ := Prod.mk.inj (Option.some.inj hstep)
      have hallocated : ({ s with allocated := s.allocated + 1 } : EventSub).Counted :=
        ⟨h.add, h.cancel⟩
      apply hallocated.subscribeEventSub
  | unsubscribe id =>
      obtain ⟨rfl, _⟩ := Prod.mk.inj (Option.some.inj hstep)
      apply h.unsubscribeEventSub
  | executeCancelTasks =>
      obtain ⟨rfl, _⟩ := Prod.mk.inj (Option.some.inj hstep)
      apply h.executeCancelTasks
  | executeAddTasks =>
      obtain ⟨rfl, _⟩ := Prod.mk.inj (Option.some.inj hstep)
      apply h.executeAddTasks
  | task p a =>
      obtain ⟨_, task, out, _, rfl, _⟩ := stepTask_eq_some hstep
      have hset : (s.setTask p task).Counted := ⟨h.add, h.cancel⟩
      apply hset.enqueue

/-- The counter of the new tasks is zero when their number is a multiple of `2 ^ 32`. -/
theorem addTaskCount_eq_zero_iff (h : s.Counted) :
  s.addTaskCount = 0 ↔ s.addTasks.length % 2 ^ 32 = 0
  := by
  rw [← UInt32.toNat_inj, h.add]
  rfl

/-- The counter of the cancellations is zero when their number is a multiple of `2 ^ 32`. -/
theorem cancelTaskCount_eq_zero_iff (h : s.Counted) :
  s.cancelTaskCount = 0 ↔ s.cancelTasks.length % 2 ^ 32 = 0
  := by
  rw [← UInt32.toNat_inj, h.cancel]
  rfl

end Counted

/-- A drain takes what its counter shows, and leaves the rest. -/
theorem executeCancelTasks_tasks {s : EventSub} (h : s.Counted) :
  s.executeCancelTasks.tasks = (taken s.cancelTasks).foldl ExtTreeMap.erase s.tasks
    ∧ s.executeCancelTasks.cancelTasks = left s.cancelTasks
    ∧ s.executeCancelTasks.addTasks = s.addTasks
  := by
  rw [executeCancelTasks, taken, left]
  simp only [h.cancelTaskCount_eq_zero_iff]
  split <;> exact ⟨rfl, rfl, rfl⟩

theorem executeAddTasks_tasks {s : EventSub} (h : s.Counted) :
  s.executeAddTasks.tasks = (taken s.addTasks).foldl (insertTask s.heap) s.tasks
    ∧ s.executeAddTasks.addTasks = left s.addTasks
    ∧ s.executeAddTasks.cancelTasks = s.cancelTasks
  := by
  rw [executeAddTasks, taken, left]
  simp only [h.addTaskCount_eq_zero_iff]
  split <;> exact ⟨rfl, rfl, rfl⟩

/-- When a drain takes the cancellations, a counter at zero means that there are none. -/
theorem executeCancelTasks_eq {s : EventSub} (h : s.Counted)
    (htakes : Takes s.cancelTasks.length) :
  s.executeCancelTasks = { s with
    tasks := s.cancelTasks.foldl ExtTreeMap.erase s.tasks
    cancelTaskCount := 0
    cancelTasks := [] }
  := by
  rw [executeCancelTasks]
  split
  · rename_i hcount
    have hlength := htakes (h.cancelTaskCount_eq_zero_iff.mp hcount)
    obtain ⟨addTasks, addTaskCount, cancelTasks, cancelTaskCount, tasks, heap, allocated⟩ := s
    obtain rfl : cancelTaskCount = 0 := hcount
    obtain rfl : cancelTasks = [] := List.eq_nil_of_length_eq_zero hlength
    rfl
  · rfl

theorem executeAddTasks_eq {s : EventSub} (h : s.Counted) (htakes : Takes s.addTasks.length) :
  s.executeAddTasks = { s with
    tasks := s.addTasks.foldl (insertTask s.heap) s.tasks
    addTaskCount := 0
    addTasks := [] }
  := by
  rw [executeAddTasks]
  split
  · rename_i hcount
    have hlength := htakes (h.addTaskCount_eq_zero_iff.mp hcount)
    obtain ⟨addTasks, addTaskCount, cancelTasks, cancelTaskCount, tasks, heap, allocated⟩ := s
    obtain rfl : addTaskCount = 0 := hcount
    obtain rfl : addTasks = [] := List.eq_nil_of_length_eq_zero hlength
    rfl
  · rfl

/-- A drain takes both queues. -/
def TakesBoth (s : EventSub) : Prop := Takes s.addTasks.length ∧ Takes s.cancelTasks.length

/-- A drain of both queues, when it takes them. -/
theorem drain_eq {s : EventSub} (h : s.Counted) (htakes : s.TakesBoth) :
  s.drain = { s with
    tasks := s.addTasks.foldl (insertTask s.heap) (s.cancelTasks.foldl ExtTreeMap.erase s.tasks)
    addTaskCount := 0
    addTasks := []
    cancelTaskCount := 0
    cancelTasks := [] }
  := by
  obtain ⟨hadd, hcancel⟩ := htakes
  have hadd' : Takes s.executeCancelTasks.addTasks.length := by
    rwa [(executeCancelTasks_tasks h).2.2]
  rw [drain, executeAddTasks_eq h.executeCancelTasks hadd', executeCancelTasks_eq h hcancel]

theorem counted_call {s : EventSub} (h : s.Counted) (c : QueueCall) :
  (s.call c).Counted
  := by
  cases c with
  | subscribe task => apply h.subscribeEventSub
  | unsubscribe id => apply h.unsubscribeEventSub
  | drain => apply h.executeCancelTasks.executeAddTasks

/-- The drains of the calls that follow take both queues, when the drains of all calls do. -/
theorem drainsTake_tail {s : EventSub} {c : QueueCall} {calls : List QueueCall}
    (h : s.Counted) (htakes : DrainsTake s.addTasks.length s.cancelTasks.length (c :: calls)) :
  (c = .drain → s.TakesBoth)
    ∧ DrainsTake (s.call c).addTasks.length (s.call c).cancelTasks.length calls
  := by
  cases c with
  | subscribe task =>
      constructor
      · intro hc
        cases hc
      · rw [call, subscribeEventSub, List.length_append]
        apply htakes
  | unsubscribe id =>
      constructor
      · intro hc
        cases hc
      · rw [call, unsubscribeEventSub, List.length_append]
        apply htakes
  | drain =>
      constructor
      · intro _
        apply htakes.1
      · rw [call, drain_eq h htakes.1]
        apply htakes.2

/-! ### What becomes of an id -/

@[simp]
theorem call_heap (s : EventSub) (c : QueueCall) :
  (s.call c).heap = s.heap
  := by
  cases c with
  | subscribe task => rfl
  | unsubscribe id => rfl
  | drain => rw [call, drain, executeAddTasks_heap, executeCancelTasks_heap]

/-- The task of an id after a drain. -/
def afterDrain (s : EventSub) (id : String) : Option Nat :=
  (if id ∈ s.cancelTasks then none else s.tasks[id]?).or
    (s.addTasks.find? fun p => (s.heap p).id = id)

theorem getElem?_drain {s : EventSub} (h : s.Counted) (htakes : s.TakesBoth)
    (id : String) :
  s.drain.tasks[id]? = s.afterDrain id
  := by
  rw [drain_eq h htakes, afterDrain, getElem?_foldl_insertTask, Table.getElem?_foldl_erase]

theorem find?_append_subscribe (heap : Nat → LiveTask) (id : String) (added : List Nat)
    (task : Nat) :
  ((added ++ [task]).find? fun p => (heap p).id = id)
    = (added.find? fun p => (heap p).id = id).or (subscribedBy heap id (.subscribe task))
  := by
  rw [List.find?_append, subscribedBy]
  by_cases hid : (heap task).id = id <;> simp [hid]

/-- A call that does not cancel the id adds the subscription it makes. -/
theorem afterDrain_call {s : EventSub} (h : s.Counted) {c : QueueCall} {id : String}
    (htakes : c = .drain → s.TakesBoth) (hc : c ≠ .unsubscribe id) :
  (s.call c).afterDrain id = (s.afterDrain id).or (subscribedBy s.heap id c)
  := by
  cases c with
  | subscribe task =>
      rw [afterDrain, afterDrain, Option.or_assoc, ← find?_append_subscribe]
      rfl
  | unsubscribe id' =>
      have hne : id ≠ id' := by
        rintro rfl
        apply hc rfl
      rw [subscribedBy_unsubscribe, Option.or_none]
      by_cases hmem : id ∈ s.cancelTasks
      · simp [afterDrain, call, unsubscribeEventSub, hmem]
        rfl
      · simp [afterDrain, call, unsubscribeEventSub, hmem, hne]
        rfl
  | drain =>
      rw [subscribedBy_drain, Option.or_none, ← getElem?_drain h (htakes rfl), call]
      simp [afterDrain, drain_eq h (htakes rfl)]

/-- A cancellation of the id leaves the first task that waits under it. -/
theorem afterDrain_unsubscribe (s : EventSub) (id : String) :
  (s.call (.unsubscribe id)).afterDrain id = s.addTasks.find? fun p => (s.heap p).id = id
  := by
  rw [afterDrain, call, unsubscribeEventSub, if_pos List.mem_concat_self, Option.none_or]

/-- Calls that do not cancel the id keep the task it has, or give it the first task they
subscribe under it. -/
theorem getElem?_finalTable {s : EventSub} (h : s.Counted) {calls : List QueueCall}
    (htakes : DrainsTake s.addTasks.length s.cancelTasks.length calls) {id : String}
    (hnot : .unsubscribe id ∉ calls) :
  (s.finalTable calls)[id]? = (s.afterDrain id).or (firstSubscription s.heap id calls)
  := by
  induction calls generalizing s with
  | nil =>
      rw [finalTable, callAll, List.foldl_nil, getElem?_drain h htakes]
      simp [firstSubscription]
  | cons c calls ih =>
      rw [List.mem_cons, not_or] at hnot
      obtain ⟨hc, hnot⟩ := hnot
      obtain ⟨hdrain, htail⟩ := drainsTake_tail h htakes
      have hrest := ih (counted_call h c) htail hnot
      rw [call_heap, afterDrain_call h hdrain (Ne.symm hc), Option.or_assoc] at hrest
      rw [firstSubscription, List.findSome?_cons]
      rw [show s.finalTable (c :: calls) = (s.call c).finalTable calls from rfl, hrest]
      cases subscribedBy s.heap id c <;> rfl

theorem find?_addTasks_callAll {s : EventSub} (h : s.Counted) {calls later : List QueueCall}
    (htakes : DrainsTake s.addTasks.length s.cancelTasks.length (calls ++ later)) (id : String) :
  (s.callAll calls).Counted
    ∧ DrainsTake (s.callAll calls).addTasks.length (s.callAll calls).cancelTasks.length later
    ∧ (s.callAll calls).heap = s.heap
    ∧ ((s.callAll calls).addTasks.find? fun p => (s.heap p).id = id)
      = calls.foldl (waiting s.heap id) (s.addTasks.find? fun p => (s.heap p).id = id)
  := by
  induction calls generalizing s with
  | nil => exact ⟨h, htakes, rfl, rfl⟩
  | cons c calls ih =>
      obtain ⟨hdrain, htail⟩ := drainsTake_tail h htakes
      obtain ⟨hcounted, hlater, hheap, hfind⟩ := ih (counted_call h c) htail
      rw [call_heap] at hheap hfind
      use hcounted, hlater, hheap
      rw [show s.callAll (c :: calls) = (s.call c).callAll calls from rfl, hfind,
        List.foldl_cons]
      congr 1
      cases c with
      | subscribe task => apply find?_append_subscribe
      | unsubscribe id' =>
          rw [waiting, subscribedBy_unsubscribe, Option.or_none]
          · rfl
          · exact nofun
      | drain =>
          rw [call, drain_eq h (hdrain rfl)]
          rfl

/-- After a last cancellation of the id, it has the first task that was waiting under it, or
else the first one subscribed later. -/
theorem getElem?_finalTable_append {s : EventSub} (h : s.Counted) (hempty : s.addTasks = [])
    {earlier later : List QueueCall} {id : String}
    (htakes : DrainsTake s.addTasks.length s.cancelTasks.length
      (earlier ++ .unsubscribe id :: later))
    (hnot : .unsubscribe id ∉ later) :
  (s.finalTable (earlier ++ .unsubscribe id :: later))[id]?
    = (pendingSubscription s.heap id earlier).or (firstSubscription s.heap id later)
  := by
  obtain ⟨hcounted, hlater, hheap, hfind⟩ := find?_addTasks_callAll h htakes id
  obtain ⟨hdrain, htail⟩ := drainsTake_tail hcounted hlater
  have hfinal := getElem?_finalTable (counted_call hcounted _) htail hnot
  rw [afterDrain_unsubscribe, call_heap, hheap, hfind, hempty] at hfinal
  rw [finalTable, callAll, List.foldl_append, List.foldl_cons]
  apply hfinal

/-! ### The sequential table -/

theorem getElem?_applyNow (heap : Nat → LiveTask) (tasks : ExtTreeMap String Nat)
    {c : QueueCall} {id : String} (hc : c ≠ .unsubscribe id) :
  (applyNow heap tasks c)[id]? = (tasks[id]?).or (subscribedBy heap id c)
  := by
  cases c with
  | subscribe task =>
      have hinsert := getElem?_foldl_insertTask heap [task] tasks id
      rw [List.foldl_cons, List.foldl_nil] at hinsert
      rw [applyNow, hinsert, ← List.nil_append [task], find?_append_subscribe]
      rfl
  | unsubscribe id' =>
      have hne : id' ≠ id := by
        rintro rfl
        apply hc rfl
      simp [applyNow, ExtTreeMap.getElem?_erase, hne]
  | drain => simp [applyNow]

theorem getElem?_foldl_applyNow (heap : Nat → LiveTask) (tasks : ExtTreeMap String Nat)
    {calls : List QueueCall} {id : String} (hnot : .unsubscribe id ∉ calls) :
  (calls.foldl (applyNow heap) tasks)[id]?
    = (tasks[id]?).or (firstSubscription heap id calls)
  := by
  induction calls generalizing tasks with
  | nil => simp [firstSubscription]
  | cons c calls ih =>
      rw [List.mem_cons, not_or] at hnot
      obtain ⟨hc, hnot⟩ := hnot
      rw [List.foldl_cons, ih _ hnot, getElem?_applyNow heap tasks (Ne.symm hc), Option.or_assoc,
        firstSubscription, firstSubscription, List.findSome?_cons]
      cases subscribedBy heap id c <;> rfl

theorem getElem?_sequentialTable_append (s : EventSub) {earlier later : List QueueCall}
    {id : String} (hnot : .unsubscribe id ∉ later) :
  (s.sequentialTable (earlier ++ .unsubscribe id :: later))[id]?
    = firstSubscription s.heap id later
  := by
  rw [sequentialTable, List.foldl_append, List.foldl_cons, getElem?_foldl_applyNow _ _ hnot,
    applyNow, ExtTreeMap.getElem?_erase_self, Option.none_or]

/-! ### The two tables -/

/-- Calls with a cancellation of an id have a last one. -/
theorem exists_last_unsubscribe {calls : List QueueCall} {id : String}
    (h : .unsubscribe id ∈ calls) :
  ∃ earlier later, calls = earlier ++ .unsubscribe id :: later ∧ .unsubscribe id ∉ later
  := by
  induction calls with
  | nil => cases h
  | cons c calls ih =>
      by_cases hmem : .unsubscribe id ∈ calls
      · obtain ⟨earlier, later, rfl, hnot⟩ := ih hmem
        exact ⟨c :: earlier, later, rfl, hnot⟩
      · rcases List.mem_cons.mp h with rfl | h
        · exact ⟨[], calls, rfl, hmem⟩
        · apply absurd h hmem

/-- When the drains take the queues, the tables agree on an id exactly when its last
cancellation overtakes no subscription. -/
theorem getElem?_finalTable_eq_iff (subscriptions : Nat → Subscription)
    {calls : List QueueCall} (htakes : DrainsTake 0 0 calls) (id : String) :
  ((start subscriptions).finalTable calls)[id]?
      = ((start subscriptions).sequentialTable calls)[id]?
    ↔ NotOvertaken (start subscriptions).heap id calls
  := by
  have hstart := counted_start subscriptions
  constructor
  · rintro h earlier later rfl hnot task htask
    rw [getElem?_finalTable_append hstart rfl htakes hnot,
      getElem?_sequentialTable_append _ hnot, htask] at h
    apply h.symm
  · intro h
    by_cases hmem : .unsubscribe id ∈ calls
    · obtain ⟨earlier, later, rfl, hnot⟩ := exists_last_unsubscribe hmem
      rw [getElem?_finalTable_append hstart rfl htakes hnot,
        getElem?_sequentialTable_append _ hnot]
      cases hpending : pendingSubscription (start subscriptions).heap id earlier with
      | none => rfl
      | some task => exact (h earlier later rfl hnot task hpending).symm
    · rw [getElem?_finalTable hstart htakes hmem, sequentialTable,
        getElem?_foldl_applyNow _ _ hmem]
      rfl

/-! ### Queues that a drain leaves -/

theorem foldl_applyNow_unsubscribe (heap : Nat → LiveTask) (ids : List String)
    (tasks : ExtTreeMap String Nat) :
  (ids.map QueueCall.unsubscribe).foldl (applyNow heap) tasks = ids.foldl ExtTreeMap.erase tasks
  := by
  rw [List.foldl_map]
  rfl

theorem foldl_applyNow_subscribe (heap : Nat → LiveTask) (added : List Nat)
    (tasks : ExtTreeMap String Nat) :
  (added.map QueueCall.subscribe).foldl (applyNow heap) tasks
    = added.foldl (insertTask heap) tasks
  := by
  rw [List.foldl_map]
  rfl

/-- A drain applies what it takes, and leaves the rest in the queues. -/
theorem drain_tasks {s : EventSub} (h : s.Counted) :
  s.drain.tasks = (takenBoth s.addTasks s.cancelTasks).foldl (applyNow s.heap) s.tasks
    ∧ s.drain.addTasks = left s.addTasks ∧ s.drain.cancelTasks = left s.cancelTasks
  := by
  obtain ⟨htasks, hcancels, hadds⟩ := executeCancelTasks_tasks h
  obtain ⟨htasks', hadds', hcancels'⟩ := executeAddTasks_tasks h.executeCancelTasks
  rw [executeCancelTasks_heap, htasks, hadds] at htasks'
  rw [drain, htasks', hadds', hcancels', hadds, hcancels, takenBoth, List.foldl_append,
    foldl_applyNow_unsubscribe, foldl_applyNow_subscribe]
  exact ⟨rfl, rfl, rfl⟩

/-- The table after calls and a last drain is the one after the requests that the drains take,
one by one in the order they take them in. -/
theorem finalTable_eq_foldl {s : EventSub} (h : s.Counted) (calls : List QueueCall) :
  s.finalTable calls
    = (takenOrder s.addTasks s.cancelTasks calls).foldl (applyNow s.heap) s.tasks
  := by
  induction calls generalizing s with
  | nil => exact (drain_tasks h).1
  | cons c calls ih =>
      have hrest := ih (counted_call h c)
      rw [call_heap] at hrest
      rw [show s.finalTable (c :: calls) = (s.call c).finalTable calls from rfl, hrest]
      cases c with
      | subscribe task => rfl
      | unsubscribe id => rfl
      | drain =>
          obtain ⟨htasks, hadds, hcancels⟩ := drain_tasks h
          rw [call, hadds, hcancels, htasks, takenOrder, List.foldl_append]

theorem afterUnsubscribe_append {earlier later : List QueueCall} {id : String}
    (hnot : .unsubscribe id ∉ later) :
  afterUnsubscribe id (earlier ++ .unsubscribe id :: later) = later
  := by
  induction earlier with
  | nil => rw [List.nil_append, afterUnsubscribe, if_neg hnot, if_pos rfl]
  | cons c earlier ih =>
      rw [List.cons_append, afterUnsubscribe, if_pos List.mem_append_cons_self, ih]

theorem afterUnsubscribe_of_not_mem {calls : List QueueCall} {id : String}
    (hnot : .unsubscribe id ∉ calls) :
  afterUnsubscribe id calls = calls
  := by
  cases calls with
  | nil => rfl
  | cons c calls =>
      rw [List.mem_cons, not_or] at hnot
      obtain ⟨hc, hnot⟩ := hnot
      rw [afterUnsubscribe, if_neg hnot, if_neg (Ne.symm hc)]

/-- Requests one by one leave under an id the first task subscribed after its last
cancellation. -/
theorem getElem?_foldl_applyNow_empty (heap : Nat → LiveTask) (calls : List QueueCall)
    (id : String) :
  (calls.foldl (applyNow heap) ∅)[id]? = firstSubscription heap id (afterUnsubscribe id calls)
  := by
  by_cases hmem : .unsubscribe id ∈ calls
  · obtain ⟨earlier, later, rfl, hnot⟩ := exists_last_unsubscribe hmem
    rw [afterUnsubscribe_append hnot, List.foldl_append, List.foldl_cons,
      getElem?_foldl_applyNow _ _ hnot, applyNow, ExtTreeMap.getElem?_erase_self, Option.none_or]
  · rw [afterUnsubscribe_of_not_mem hmem, getElem?_foldl_applyNow _ _ hmem]
    simp

/-- The tables agree on an id exactly when the drains take its requests as if they came in
their order. -/
theorem getElem?_finalTable_eq_iff_taken (subscriptions : Nat → Subscription)
    (calls : List QueueCall) (id : String) :
  ((start subscriptions).finalTable calls)[id]?
      = ((start subscriptions).sequentialTable calls)[id]?
    ↔ TakenAlike (start subscriptions).heap id calls
  := by
  have hfinal := finalTable_eq_foldl (counted_start subscriptions) calls
  have hempty : (start subscriptions).tasks = ∅ := rfl
  rw [hempty] at hfinal
  rw [hfinal, sequentialTable, hempty, getElem?_foldl_applyNow_empty,
    getElem?_foldl_applyNow_empty]
  apply Iff.rfl

/-- The table after requests and drains is the one after the requests in their order exactly
when every drain takes both queues and no last cancellation of an id overtakes a subscription
of it, or some drain leaves a queue whose counter has wrapped around, and for every id the
drains take first after its last cancellation what was subscribed first after it. -/
theorem finalTable_eq_iff (subscriptions : Nat → Subscription) (calls : List QueueCall) :
  (start subscriptions).finalTable calls = (start subscriptions).sequentialTable calls
    ↔ (DrainsTake 0 0 calls ∧ ∀ id, NotOvertaken (start subscriptions).heap id calls)
      ∨ (¬ DrainsTake 0 0 calls ∧ ∀ id, TakenAlike (start subscriptions).heap id calls)
  := by
  have hsame : (start subscriptions).finalTable calls = (start subscriptions).sequentialTable calls
      ↔ ∀ id : String, ((start subscriptions).finalTable calls)[id]?
        = ((start subscriptions).sequentialTable calls)[id]? := by
    constructor
    · intro h id
      rw [h]
    · intro h
      apply ExtTreeMap.ext_getElem?
      intro id
      apply h id
  rw [hsame]
  by_cases htakes : DrainsTake 0 0 calls
  · simp only [getElem?_finalTable_eq_iff subscriptions htakes, htakes, true_and, not_true,
      false_and, or_false]
  · simp only [getElem?_finalTable_eq_iff_taken, htakes, false_and, not_false_eq_true, true_and,
      false_or]

/-- A subscription that is cancelled before a drain stays. -/
theorem finalTable_counterexample :
  ¬ ∀ (subscriptions : Nat → Subscription) (calls : List QueueCall),
    (start subscriptions).finalTable calls = (start subscriptions).sequentialTable calls
  := by
  intro h
  have heq := h (fun _ => ⟨"1", "group0", ⟨0, ""⟩, {}⟩) [.subscribe 0, .unsubscribe "1"]
  have hfinal : ((start fun _ => ⟨"1", "group0", ⟨0, ""⟩, {}⟩).finalTable
      [.subscribe 0, .unsubscribe "1"])["1"]? = some 0 := by decide
  have hseq : ((start fun _ => ⟨"1", "group0", ⟨0, ""⟩, {}⟩).sequentialTable
      [.subscribe 0, .unsubscribe "1"])["1"]? = none := by decide
  rw [heq, hseq] at hfinal
  cases hfinal

end EventSub
