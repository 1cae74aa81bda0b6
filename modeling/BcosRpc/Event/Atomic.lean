import BcosRpc.Event.Locks

/-!
# Calls and drains as whole steps

A state of `lockedMachine` stands for the state of `EventSub` in which every completed call has
taken effect and no other one, and every drain that has taken the lock. With fewer than `2 ^ 32`
pending entries, a run has the effect of whole calls and drains: `subscribeEventSub` and
`unsubscribeEventSub` in the order of their completion, and `executeAddTasks` and
`executeCancelTasks` between them.
-/

open Std

/-- A call or a drain as a whole. -/
inductive WholeStep where
  | subscribeEventSub (task : Nat)
  | unsubscribeEventSub (id : String)
  | executeAddTasks
  | executeCancelTasks

namespace WholeStep

def apply : EventSub → WholeStep → EventSub
  | s, .subscribeEventSub task => s.subscribeEventSub task
  | s, .unsubscribeEventSub id => s.unsubscribeEventSub id
  | s, .executeAddTasks => s.executeAddTasks
  | s, .executeCancelTasks => s.executeCancelTasks

/-- The tasks of some steps that subscribe. -/
def subscribed (steps : List WholeStep) : List Nat :=
  steps.filterMap fun
    | .subscribeEventSub task => some task
    | _ => none

/-- The ids of some steps that unsubscribe. -/
def unsubscribed (steps : List WholeStep) : List String :=
  steps.filterMap fun
    | .unsubscribeEventSub id => some id
    | _ => none

end WholeStep

namespace LockedEventSub

/-- The state of the module that a state stands for. The rest of the module is in `base`. -/
def toEventSub (base : EventSub) (s : LockedEventSub) : EventSub :=
  { base with
    addTasks := s.addTasks.visible.map Prod.snd
    addTaskCount := s.addTasks.visibleCounter
    cancelTasks := s.cancelTasks.visible.map Prod.snd
    cancelTaskCount := s.cancelTasks.visibleCounter
    tasks := (s.addTasks.taken.map Prod.snd).foldl (EventSub.insertTask base.heap)
      ((s.cancelTasks.taken.map Prod.snd).foldl ExtTreeMap.erase s.tasks) }

/-- The invariant: each queue is tracked, and the worker is in a drain only in its turn. -/
structure InTurn (heap : Nat → LiveTask) (o : List LockedOutput) (s : LockedEventSub) : Prop where
  addTasks : LockedQueue.Tracks ((addProjection heap).outputs o) s.addTasks
  cancelTasks : LockedQueue.Tracks ((cancelProjection heap).outputs o) s.cancelTasks
  adding : s.stage ≠ .adding → s.addTasks.Resting
  cancelling : s.stage ≠ .cancelling → s.cancelTasks.Resting

/-- Some whole steps lead from what a state stands for to what the next one does, and their
calls are those completed. -/
def TakesWhole (base : EventSub) (s : LockedEventSub) (o : List LockedOutput)
    (t : LockedEventSub) : Prop :=
  ∃ steps : List WholeStep,
    t.toEventSub base = steps.foldl WholeStep.apply (s.toEventSub base)
      ∧ WholeStep.subscribed steps
        = (LockedQueue.completed ((addProjection base.heap).outputs o)).map Prod.snd
      ∧ WholeStep.unsubscribed steps
        = (LockedQueue.completed ((cancelProjection base.heap).outputs o)).map Prod.snd

variable {base : EventSub} {heap : Nat → LiveTask} {s t u : LockedEventSub}
  {o o' : List LockedOutput}

theorem TakesWhole.nil (h : t.toEventSub base = s.toEventSub base) :
  TakesWhole base s [] t
  := ⟨[], h, rfl, rfl⟩

theorem TakesWhole.append (h : TakesWhole base s o t) (h' : TakesWhole base t o' u) :
  TakesWhole base s (o ++ o') u
  := by
  obtain ⟨steps, hst, hsub, hunsub⟩ := h
  obtain ⟨steps', htu, hsub', hunsub'⟩ := h'
  use steps ++ steps'
  constructor
  · rw [List.foldl_append, ← hst, htu]
  · simp only [Machine.Projection.outputs_append, LockedQueue.completed_append, List.map_append,
      ← hsub, ← hunsub, ← hsub', ← hunsub', WholeStep.subscribed, WholeStep.unsubscribed,
      List.filterMap_append, and_self]

theorem inTurn_start (heap : Nat → LiveTask) :
  InTurn heap [] {}
  := ⟨LockedQueue.tracks_start, LockedQueue.tracks_start, fun _ => ⟨rfl, id⟩, fun _ => ⟨rfl, id⟩⟩

section

variable {α : Type} {q queue : LockedQueue α} {a : QueueAction α} {e : List (QueueOutput α)}
  {stage own next other : WorkerStage}

/-- Out of its turn, a queue that is drained in its turn only is not in a drain. -/
theorem resting_of_turn (hqueue : (queueMachine α).step q a = some (queue, e))
    (hturn : a.isDrain = true → stage = own) (hresting : stage ≠ own → q.Resting)
    (hstage : (if a.isDrain ∧ queue.Resting then next else stage) ≠ own) :
  queue.Resting
  := by
  by_contra hnot
  rw [if_neg fun hdrained => hnot hdrained.2] at hstage
  have hcaller : a.isDrain = false := Bool.eq_false_iff.mpr fun hdrain => hstage (hturn hdrain)
  apply hnot
  apply (LockedQueue.resting_iff_of_step hqueue hcaller).mpr (hresting hstage)

/-- A step at one queue does not end the turn of the other. -/
theorem ne_of_turn (hturn : a.isDrain = true → stage = own) (hne : own ≠ other)
    (hstage : (if a.isDrain ∧ queue.Resting then next else stage) ≠ other) :
  stage ≠ other
  := by
  intro heq
  apply hstage
  rw [if_neg, heq]
  rintro ⟨hdrain, -⟩
  apply hne
  rw [← hturn hdrain, heq]

end

/-- A step keeps the turns, as long as no counter overflows. -/
theorem InTurn.step {a : LockedAction} (h : InTurn heap o s) (hbound : s.Bounded)
    (hstep : (lockedMachine heap).step s a = some (t, o')) :
  InTurn heap (o ++ o') t
  := by
  have hadd := (addProjection heap).keep (C := fun _ s _ => s.entries.length < 2 ^ 32)
    (fun h hlt hstep => h.step hlt hstep) h.addTasks (fun _ _ => hbound.1) hstep
  have hcancel := (cancelProjection heap).keep (C := fun _ s _ => s.entries.length < 2 ^ 32)
    (fun h hlt hstep => h.step hlt hstep) h.cancelTasks (fun _ _ => hbound.2) hstep
  cases a with
  | add a =>
      obtain ⟨hturn, queue, e, hqueue, rfl, rfl⟩ := stepAdd_eq_some hstep
      constructor
      · apply hadd
      · apply hcancel
      · apply resting_of_turn hqueue hturn h.adding
      · intro hstage
        apply h.cancelling (ne_of_turn hturn (by decide) hstage)
  | cancel a =>
      obtain ⟨hturn, queue, e, hqueue, rfl, rfl⟩ := stepCancel_eq_some hstep
      constructor
      · apply hadd
      · apply hcancel
      · intro hstage
        apply h.adding (ne_of_turn hturn (by decide) hstage)
      · apply resting_of_turn hqueue hturn h.cancelling
  | visit =>
      obtain ⟨hstage, rfl, rfl⟩ := visit_eq_some hstep
      have hne : s.stage ≠ .adding := by simp [hstage]
      exact ⟨hadd, hcancel, fun _ => h.adding hne, fun h => absurd rfl h⟩

/-! ### The whole steps -/

/-- A step at the queue of the new tasks is a call, a drain, or nothing, as a whole. -/
theorem InTurn.takesWhole_add {a : QueueAction Nat} (h : InTurn base.heap o s)
    (hstep : s.stepAdd base.heap a = some (t, o')) :
  TakesWhole base s o' t
  := by
  obtain ⟨hturn, queue, e, hqueue, rfl, rfl⟩ := stepAdd_eq_some hstep
  rw [TakesWhole, addOutputs_add, cancelOutputs_add]
  rcases LockedQueue.step_cases hqueue with ⟨rfl, hdrain⟩ | ⟨-, hcaller⟩
  · have hstage : s.stage ≠ .cancelling := by simp [hturn rfl]
    have hcancel : s.cancelTasks.taken = [] :=
      LockedQueue.taken_of_not_drainHolds (h.cancelling hstage).2
    obtain ⟨hcompleted, ⟨hvisible, hcounter, htaken⟩ | ⟨hrest, hprocessed, htaken, hvisible,
      hcounter⟩⟩ := h.addTasks.visible_drain hdrain
    · use []
      rw [hcompleted]
      constructor
      · simp [toEventSub, hvisible, hcounter, htaken, hcancel]
      · exact ⟨rfl, rfl⟩
    · use [.executeAddTasks]
      rw [hcompleted]
      constructor
      · rw [List.foldl_cons, List.foldl_nil, WholeStep.apply, EventSub.executeAddTasks]
        by_cases hcount : (s.toEventSub base).addTaskCount = 0
        · have hzero : s.addTasks.visibleCounter = 0 := hcount
          have hnil := h.addTasks.visible_eq_nil hzero
          rw [if_pos hcount]
          simp [toEventSub, hvisible, hcounter, htaken, hcancel, hrest, hprocessed, hnil, hzero]
        · rw [if_neg hcount]
          simp [toEventSub, hvisible, hcounter, htaken, hcancel, hrest, hprocessed]
      · exact ⟨rfl, rfl⟩
  · obtain ⟨htaken, hprocessed, ⟨hvisible, hcounter, hcompleted⟩ | ⟨entry, hvisible, hcounter,
      hcompleted⟩⟩ := h.addTasks.visible_caller hcaller
    · use []
      rw [hcompleted]
      constructor
      · simp [toEventSub, hvisible, hcounter, htaken, hprocessed]
      · exact ⟨rfl, rfl⟩
    · use [.subscribeEventSub entry.2]
      rw [hcompleted]
      constructor
      · simp [toEventSub, hvisible, hcounter, htaken, hprocessed, WholeStep.apply,
          EventSub.subscribeEventSub]
      · exact ⟨rfl, rfl⟩

/-- A step at the queue of the cancellations is a call, a drain, or nothing, as a whole. -/
theorem InTurn.takesWhole_cancel {a : QueueAction String} (h : InTurn base.heap o s)
    (hstep : s.stepCancel a = some (t, o')) :
  TakesWhole base s o' t
  := by
  obtain ⟨hturn, queue, e, hqueue, rfl, rfl⟩ := stepCancel_eq_some hstep
  rw [TakesWhole, addOutputs_cancel, cancelOutputs_cancel]
  rcases LockedQueue.step_cases hqueue with ⟨rfl, hdrain⟩ | ⟨-, hcaller⟩
  · have hstage : s.stage ≠ .adding := by simp [hturn rfl]
    have hadd : s.addTasks.taken = [] :=
      LockedQueue.taken_of_not_drainHolds (h.adding hstage).2
    obtain ⟨hcompleted, ⟨hvisible, hcounter, htaken⟩ | ⟨hrest, hprocessed, htaken, hvisible,
      hcounter⟩⟩ := h.cancelTasks.visible_drain hdrain
    · use []
      rw [hcompleted]
      constructor
      · simp [toEventSub, hvisible, hcounter, htaken, hadd]
      · exact ⟨rfl, rfl⟩
    · use [.executeCancelTasks]
      rw [hcompleted]
      constructor
      · rw [List.foldl_cons, List.foldl_nil, WholeStep.apply, EventSub.executeCancelTasks]
        by_cases hcount : (s.toEventSub base).cancelTaskCount = 0
        · have hzero : s.cancelTasks.visibleCounter = 0 := hcount
          have hnil := h.cancelTasks.visible_eq_nil hzero
          rw [if_pos hcount]
          simp [toEventSub, hvisible, hcounter, htaken, hadd, hrest, hprocessed, hnil, hzero]
        · rw [if_neg hcount]
          simp [toEventSub, hvisible, hcounter, htaken, hadd, hrest, hprocessed]
      · exact ⟨rfl, rfl⟩
  · obtain ⟨htaken, hprocessed, ⟨hvisible, hcounter, hcompleted⟩ | ⟨entry, hvisible, hcounter,
      hcompleted⟩⟩ := h.cancelTasks.visible_caller hcaller
    · use []
      rw [hcompleted]
      constructor
      · simp [toEventSub, hvisible, hcounter, htaken, hprocessed]
      · exact ⟨rfl, rfl⟩
    · use [.unsubscribeEventSub entry.2]
      rw [hcompleted]
      constructor
      · simp [toEventSub, hvisible, hcounter, htaken, hprocessed, WholeStep.apply,
          EventSub.unsubscribeEventSub]
      · exact ⟨rfl, rfl⟩

/-- Every step takes whole steps. -/
theorem InTurn.takesWhole {a : LockedAction} (h : InTurn base.heap o s)
    (hstep : (lockedMachine base.heap).step s a = some (t, o')) :
  TakesWhole base s o' t
  := by
  cases a with
  | add a => apply h.takesWhole_add hstep
  | cancel a => apply h.takesWhole_cancel hstep
  | visit =>
      obtain ⟨-, rfl, rfl⟩ := visit_eq_some hstep
      apply TakesWhole.nil rfl

/-- Every run with fewer than `2 ^ 32` pending entries at any time has the effect of whole calls
and drains, the calls in the order in which they are completed. -/
theorem takesWhole_of_run (base : EventSub) {as : List LockedAction}
    (hbound : (lockedMachine base.heap).Throughout (fun _ s => s.Bounded) [] {} as)
    (hrun : (lockedMachine base.heap).run {} as = some (t, o)) :
  TakesWhole base {} o t
  := by
  have hall := hbound.invariant (I := fun o s => InTurn base.heap o s ∧ TakesWhole base {} o s)
    (fun h hlt hstep => ⟨h.1.step hlt hstep, h.2.append (h.1.takesWhole hstep)⟩)
    ⟨inTurn_start base.heap, TakesWhole.nil rfl⟩
  apply (hall.run hrun).2

/-- The calls and drains of `overtaken`, as whole steps. -/
theorem takesWhole_of_run_overtaken :
  ∃ t o, (lockedMachine oneId).run {} overtaken = some (t, o)
    ∧ TakesWhole (EventSub.start fun _ => (oneId 0).toSubscription) {} o t
  := by
  have hbound : (lockedMachine (EventSub.start fun _ => (oneId 0).toSubscription).heap).Throughout
      (fun _ s => s.Bounded) [] {} overtaken := by decide
  exact ⟨_, _, rfl, takesWhole_of_run _ hbound rfl⟩

end LockedEventSub
