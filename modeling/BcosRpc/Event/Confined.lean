import BcosRpc.Event.Sessions
import BcosRpc.Machine.Unwinding

/-!
# Unsubscriptions of other sessions

The table is keyed by ids that the sessions choose, and an unsubscription names only an id: it
removes the task of any session. `EventSub.confined` compares two runs that differ in
unsubscriptions of other sessions: what a session has installed and is sent is the same when
the ids in them are none it subscribes under.
-/

open Std

/-! ### The outputs of a task -/

/-- An output that goes to no session but the given one, and cancels no id but the given
one. -/
def TaskOutput.About (session : WsSession) (id : String) : TaskOutput → Prop
  | .pushEvents session' _ _ => session' = session
  | .pushCompleted session' _ => session' = session
  | .unsubscribeEventSub id' => id' = id
  | _ => True

theorem Continues.about {env : Env} {b e : Int} {task next : LiveTask} {out : List TaskOutput}
    (h : Continues env b e task (next, out)) :
  ∀ x ∈ out, x.About task.session task.id
  := by
  cases h <;> simp [TaskOutput.About]

/-- A step of a task is about its session and its id. -/
theorem TaskStep.about {m : Int} {task next : LiveTask} {a : TaskAction} {out : List TaskOutput}
    (h : TaskStep m task a (next, out)) :
  ∀ x ∈ out, x.About task.session task.id
  := by
  cases h with
  | opened _ _ _ hr => exact hr.about
  | @fetched env _ _ block _ _ _ _ hr =>
      intro x hx
      rcases List.mem_append.mp hx with hx | hx
      · rcases task.pushed_cases env block with h | ⟨jResp, h⟩
        · rw [h] at hx
          cases hx
        · rw [h, List.mem_singleton] at hx
          rw [hx]
          rfl
      · rcases List.mem_cons.mp hx with rfl | hx
        · trivial
        · apply hr.about x hx
  | _ => simp [TaskOutput.About]

namespace EventSub

/-! ### What a session sees -/

section

variable (parse : String → Option Json)

/-- The id of a subscription that is decoded. -/
def subscribedId (request : String) : Option String :=
  let (decoded, ok) := EventSubRequest.fromJson parse {} request
  if ok then some decoded.id else none

/-- The id of an unsubscription that is decoded. -/
def unsubscribedId (request : String) : Option String :=
  let (decoded, ok) := EventSubUnsubRequest.fromJson parse {} request
  if ok then some decoded.id else none

/-- Hidden from the session `A` are the unsubscriptions of other sessions for the ids `D` and
the steps of the tasks of other sessions under these ids. -/
def keeps (A : WsSession) (D : String → Bool) (s : EventSub) : SessionAction → Bool
  | .onRecvUnsubscribeEvent _ request session =>
      session = A || (unsubscribedId parse request).any fun id => !D id
  | .task p _ => (s.heap p).session = A || !D (s.heap p).id
  | _ => true

end

/-- The task a session has installed under an id. -/
def installed (A : WsSession) (s : EventSub) (id : String) : Option LiveTask :=
  (s.tasks[id]?.map s.heap).filter fun task => task.session = A

/-- What is sent to a session: responses, events and the messages that a task is complete. -/
def sentTo (A : WsSession) : SessionOutput → Option SessionOutput
  | .response session response => if session = A then some (.response session response) else none
  | .task p (.pushEvents session id result) =>
      if session = A then some (.task p (.pushEvents session id result)) else none
  | .task p (.pushCompleted session id) =>
      if session = A then some (.task p (.pushCompleted session id)) else none
  | _ => none

/-- A session does not subscribe under the ids `D`. -/
def SubscribesOutside (parse : String → Option Json) (A : WsSession) (D : String → Bool) :
    SessionAction → Prop
  | .onRecvSubscribeEvent _ request session =>
      session = A → ∀ id ∈ subscribedId parse request, D id = false
  | _ => True

instance (parse : String → Option Json) (A : WsSession) (D : String → Bool)
    (a : SessionAction) : Decidable (SubscribesOutside parse A D a) :=
  match a with
  | .onRecvSubscribeEvent _ request _ =>
      inferInstanceAs (Decidable (_ → ∀ id ∈ subscribedId parse request, D id = false))
  | .onRecvUnsubscribeEvent .. => isTrue trivial
  | .executeCancelTasks => isTrue trivial
  | .executeAddTasks => isTrue trivial
  | .task .. => isTrue trivial

/-- Fewer than `2 ^ 32` cancellations wait when they are drained. -/
def CancelsFit (s : EventSub) : SessionAction → Prop
  | .executeCancelTasks => s.cancelTasks.length < 2 ^ 32
  | _ => True

instance (s : EventSub) (a : SessionAction) : Decidable (CancelsFit s a) :=
  match a with
  | .executeCancelTasks => inferInstanceAs (Decidable (_ < _))
  | .onRecvSubscribeEvent .. => isTrue trivial
  | .onRecvUnsubscribeEvent .. => isTrue trivial
  | .executeAddTasks => isTrue trivial
  | .task .. => isTrue trivial

/-! ### States that are the same but for the ids -/

/-- Two states have the same objects and the same queue of new tasks, and the same table and
cancellations but for the ids `D`, under which no task belongs to `A`. -/
structure SameOutside (A : WsSession) (D : String → Bool) (s t : EventSub) : Prop where
  allocated : s.allocated = t.allocated
  subscription : ∀ p, (s.heap p).toSubscription = (t.heap p).toSubscription
  owned : ∀ p < s.allocated, D (s.heap p).id = true → (s.heap p).session ≠ A
  heap : ∀ p, D (s.heap p).id = false → s.heap p = t.heap p
  tasks : ∀ (id : String), D id = false → s.tasks[id]? = t.tasks[id]?
  addTasks : s.addTasks = t.addTasks
  addTaskCount : s.addTaskCount = t.addTaskCount
  cancelTasks : ∀ id, D id = false → (id ∈ s.cancelTasks ↔ id ∈ t.cancelTasks)

variable {m : Int} {parse : String → Option Json} {A : WsSession} {D : String → Bool}
  {s t : EventSub}

namespace SameOutside

theorem id_eq (h : SameOutside A D s t) (p : Nat) :
  (s.heap p).id = (t.heap p).id
  := congrArg Subscription.id (h.subscription p)

theorem session_eq (h : SameOutside A D s t) (p : Nat) :
  (s.heap p).session = (t.heap p).session
  := congrArg Subscription.session (h.subscription p)

theorem start (A : WsSession) (D : String → Bool) (unbuilt : Nat → Subscription) :
  SameOutside A D (EventSub.start unbuilt) (EventSub.start unbuilt)
  := by
  constructor
  · rfl
  · intro p
    rfl
  · intro p hp
    apply absurd hp (Nat.not_lt_zero p)
  · intro p _
    rfl
  · intro id _
    rfl
  · rfl
  · rfl
  · intro id _
    apply Iff.rfl

theorem symm (h : SameOutside A D s t) :
  SameOutside A D t s
  := by
  constructor
  · apply h.allocated.symm
  · intro p
    apply (h.subscription p).symm
  · intro p hp
    rw [← h.id_eq, ← h.session_eq]
    apply h.owned p
    rw [h.allocated]
    apply hp
  · intro p hp
    rw [← h.id_eq] at hp
    apply (h.heap p hp).symm
  · intro id hid
    apply (h.tasks id hid).symm
  · apply h.addTasks.symm
  · apply h.addTaskCount.symm
  · intro id hid
    apply (h.cancelTasks id hid).symm

/-- A task outside the ids is the same in both states, also when it belongs to `A`. -/
theorem heap_eq_of_keeps (h : SameOutside A D s t) {p : Nat} (hp : p < s.allocated)
    (hkeep : (s.heap p).session = A ∨ D (s.heap p).id = false) :
  s.heap p = t.heap p
  := by
  apply h.heap
  rcases hkeep with hsession | hout
  · by_contra hin
    apply h.owned p hp (by simpa using hin) hsession
  · apply hout

/-- A cancellation of one of the ids is not seen. -/
theorem unsubscribe_left (h : SameOutside A D s t) {id : String} (hid : D id = true) :
  SameOutside A D (s.unsubscribeEventSub id) t
  := by
  use h.allocated, h.subscription, h.owned, h.heap, h.tasks, h.addTasks, h.addTaskCount
  intro id' hid'
  rw [← h.cancelTasks id' hid', unsubscribeEventSub, List.mem_append, List.mem_singleton]
  apply or_iff_left
  rintro rfl
  rw [hid] at hid'
  cases hid'

theorem unsubscribe (h : SameOutside A D s t) (id : String) :
  SameOutside A D (s.unsubscribeEventSub id) (t.unsubscribeEventSub id)
  := by
  use h.allocated, h.subscription, h.owned, h.heap, h.tasks, h.addTasks, h.addTaskCount
  intro id' hid'
  rw [unsubscribeEventSub, unsubscribeEventSub, List.mem_append, List.mem_append,
    h.cancelTasks id' hid']

theorem subscribe (h : SameOutside A D s t) {sub : Subscription}
    (hsub : sub.session = A → D sub.id = false) :
  SameOutside A D (s.subscribe sub) (t.subscribe sub)
  := by
  have hheap : ∀ p, p ≠ s.allocated → (s.subscribe sub).heap p = s.heap p
      ∧ (t.subscribe sub).heap p = t.heap p := by
    intro p hp
    constructor
    · apply setTask_heap_of_ne hp
    · rw [h.allocated] at hp
      apply setTask_heap_of_ne hp
  have hnew : (s.subscribe sub).heap s.allocated = LiveTask.ofSubscription sub
      ∧ (t.subscribe sub).heap s.allocated = LiveTask.ofSubscription sub := by
    constructor
    · apply setTask_heap_self
    · rw [h.allocated]
      apply setTask_heap_self
  refine ⟨?_, ?_, ?_, ?_, h.tasks, ?_, ?_, h.cancelTasks⟩
  · apply congrArg (· + 1) h.allocated
  · intro p
    by_cases hp : p = s.allocated
    · rw [hp, hnew.1, hnew.2]
    · rw [(hheap p hp).1, (hheap p hp).2, h.subscription]
  · intro p hlt hin
    by_cases hp : p = s.allocated
    · rw [hp, hnew.1] at hin ⊢
      intro hsession
      rw [show D sub.id = true from hin] at hsub
      cases hsub hsession
    · rw [(hheap p hp).1] at hin ⊢
      apply h.owned p _ hin
      apply Nat.lt_of_le_of_ne (Nat.le_of_lt_succ hlt) hp
  · intro p hout
    by_cases hp : p = s.allocated
    · rw [hp, hnew.1, hnew.2]
    · rw [(hheap p hp).1] at hout
      rw [(hheap p hp).1, (hheap p hp).2, h.heap p hout]
  · show s.addTasks ++ [s.allocated] = t.addTasks ++ [t.allocated]
    rw [h.addTasks, h.allocated]
  · apply congrArg (· + 1) h.addTaskCount

theorem executeAddTasks (h : SameOutside A D s t) :
  SameOutside A D s.executeAddTasks t.executeAddTasks
  := by
  rw [EventSub.executeAddTasks, EventSub.executeAddTasks, ← h.addTaskCount]
  split
  · apply h
  · refine ⟨h.allocated, h.subscription, h.owned, h.heap, ?_, rfl, rfl, h.cancelTasks⟩
    intro id hid
    dsimp only
    rw [getElem?_foldl_insertTask, getElem?_foldl_insertTask, h.tasks id hid, h.addTasks]
    simp only [h.id_eq]

theorem executeCancelTasks (h : SameOutside A D s t) (hs : s.Counted) (ht : t.Counted)
    (hsfits : s.cancelTasks.length < 2 ^ 32) (htfits : t.cancelTasks.length < 2 ^ 32) :
  SameOutside A D s.executeCancelTasks t.executeCancelTasks
  := by
  rw [executeCancelTasks_eq hs (takes_of_lt hsfits),
    executeCancelTasks_eq ht (takes_of_lt htfits)]
  refine ⟨h.allocated, h.subscription, h.owned, h.heap, ?_, h.addTasks, h.addTaskCount, ?_⟩
  · intro id hid
    rw [Table.getElem?_foldl_erase, Table.getElem?_foldl_erase, h.tasks id hid]
    simp only [h.cancelTasks id hid]
  · intro id _
    apply Iff.rfl

/-- A step does not change what the tasks under the ids belong to. -/
theorem owned_stepTask {p : Nat} {a : TaskAction} {s' : EventSub} {e : List (Nat × TaskOutput)}
    (h : SameOutside A D s t) (hstep : s.stepTask m p a = some (s', e)) :
  ∀ q < s'.allocated, D (s'.heap q).id = true → (s'.heap q).session ≠ A
  := by
  intro q hlt hq
  rw [stepTask_id hstep] at hq
  rw [show (s'.heap q).session = (s.heap q).session from
    congrArg Subscription.session (stepTask_toSubscription hstep q)]
  apply h.owned q _ hq
  obtain ⟨_, task, out, _, rfl, _⟩ := stepTask_eq_some hstep
  rw [enqueue_allocated] at hlt
  apply hlt

/-- A step of a task under one of the ids is not seen. -/
theorem stepTask_left {p : Nat} {a : TaskAction} {s' : EventSub} {e : List (Nat × TaskOutput)}
    (h : SameOutside A D s t) (hin : D (s.heap p).id = true)
    (hstep : s.stepTask m p a = some (s', e)) :
  SameOutside A D s' t
  := by
  have hsub := stepTask_toSubscription hstep
  have hid := stepTask_id hstep
  have howned := h.owned_stepTask hstep
  obtain ⟨_, task, out, htask, rfl, _⟩ := stepTask_eq_some hstep
  constructor
  · rw [enqueue_allocated]
    apply h.allocated
  · intro q
    rw [hsub, h.subscription]
  · apply howned
  · intro q hq
    rw [hid] at hq
    have hne : q ≠ p := by
      rintro rfl
      rw [hin] at hq
      cases hq
    rw [enqueue_heap, setTask_heap_of_ne hne]
    apply h.heap q hq
  · intro id hout
    rw [enqueue_tasks]
    apply h.tasks id hout
  · rw [enqueue_addTasks]
    apply h.addTasks
  · rw [enqueue_addTaskCount]
    apply h.addTaskCount
  · intro id hout
    rw [mem_cancelTasks_enqueue, ← h.cancelTasks id hout]
    apply or_iff_left
    intro hmem
    obtain rfl : id = (s.heap p).id := (taskMachine_step htask).about _ hmem
    rw [hin] at hout
    cases hout

/-- A step of a task that is the same in both states is the same step. -/
theorem stepTask {p : Nat} {a : TaskAction} {s' t' : EventSub} {e e' : List (Nat × TaskOutput)}
    (h : SameOutside A D s t) (hp : s.heap p = t.heap p)
    (hstep : s.stepTask m p a = some (s', e)) (hstep' : t.stepTask m p a = some (t', e')) :
  SameOutside A D s' t' ∧ e = e'
  := by
  have hsub := stepTask_toSubscription hstep
  have hsub' := stepTask_toSubscription hstep'
  have hid := stepTask_id hstep
  have howned := h.owned_stepTask hstep
  obtain ⟨_, task, out, htask, rfl, rfl⟩ := stepTask_eq_some hstep
  obtain ⟨_, task', out', htask', rfl, rfl⟩ := stepTask_eq_some hstep'
  rw [← hp, htask] at htask'
  obtain ⟨rfl, rfl⟩ := Prod.mk.inj (Option.some.inj htask')
  refine ⟨?_, rfl⟩
  constructor
  · rw [enqueue_allocated, enqueue_allocated]
    apply h.allocated
  · intro q
    rw [hsub, hsub', h.subscription]
  · apply howned
  · intro q hq
    rw [hid] at hq
    rw [enqueue_heap, enqueue_heap]
    by_cases hqp : q = p
    · rw [hqp, setTask_heap_self, setTask_heap_self]
    · rw [setTask_heap_of_ne hqp, setTask_heap_of_ne hqp, h.heap q hq]
  · intro id hout
    rw [enqueue_tasks, enqueue_tasks]
    apply h.tasks id hout
  · rw [enqueue_addTasks, enqueue_addTasks]
    apply h.addTasks
  · rw [enqueue_addTaskCount, enqueue_addTaskCount]
    apply h.addTaskCount
  · intro id hout
    rw [mem_cancelTasks_enqueue, mem_cancelTasks_enqueue]
    apply or_congr_left (h.cancelTasks id hout)

end SameOutside

/-! ### Two runs -/

/-- Whatever the state, a subscription is refused or put into the queue, with the same
answer. -/
theorem onRecvSubscribeEvent_cases (parse : String → Option Json) (env : Env)
    (request : String) (session : WsSession) :
  (∃ o, ∀ s : EventSub, s.onRecvSubscribeEvent parse env request session = (s, o))
    ∨ ∃ sub o, sub.session = session ∧ sub.id ∈ subscribedId parse request
      ∧ ∀ s : EventSub, s.onRecvSubscribeEvent parse env request session = (s.subscribe sub, o)
  := by
  simp only [onRecvSubscribeEvent, subscribedId]
  obtain ⟨decoded, ok⟩ := EventSubRequest.fromJson parse {} request
  dsimp only
  cases ok with
  | false => exact Or.inl ⟨_, fun _ => rfl⟩
  | true =>
      cases hservice : env.hasNodeService decoded.group with
      | false => exact Or.inl ⟨_, fun _ => rfl⟩
      | true => exact Or.inr ⟨decoded.subscription session, _, rfl, rfl, fun _ => rfl⟩

/-- Whatever the state, an unsubscription is refused or put into the queue, with the same
answer. -/
theorem onRecvUnsubscribeEvent_cases (parse : String → Option Json) (env : Env)
    (request : String) (session : WsSession) :
  (∃ id status, unsubscribedId parse request = none ∧ ∀ s : EventSub,
      s.onRecvUnsubscribeEvent parse env request session
        = (s, sendResponse env session id status))
    ∨ ∃ id status, unsubscribedId parse request = some id ∧ ∀ s : EventSub,
      s.onRecvUnsubscribeEvent parse env request session = (s.unsubscribeEventSub id,
        .unsubscribeEventSub id :: sendResponse env session id status)
  := by
  simp only [onRecvUnsubscribeEvent, unsubscribedId]
  obtain ⟨decoded, ok⟩ := EventSubUnsubRequest.fromJson parse {} request
  cases ok with
  | false => exact Or.inl ⟨_, _, rfl, fun _ => rfl⟩
  | true => exact Or.inr ⟨_, _, rfl, fun _ => rfl⟩

/-- A response to another session is not seen. -/
theorem sentTo_sendResponse_of_ne {session : WsSession} (h : session ≠ A) (env : Env)
    (id : String) (status : Int) :
  (sendResponse env session id status).filterMap (sentTo A) = []
  := by
  rw [sendResponse]
  split <;> simp [sentTo, h]

/-- The outputs of a task of another session are not seen. -/
theorem sentTo_task_of_ne {p : Nat} {a : TaskAction} {s' : EventSub}
    {e : List (Nat × TaskOutput)} (h : (s.heap p).session ≠ A)
    (hstep : s.stepTask m p a = some (s', e)) :
  (e.map fun o => SessionOutput.task o.1 o.2).filterMap (sentTo A) = []
  := by
  obtain ⟨_, task, out, htask, _, rfl⟩ := stepTask_eq_some hstep
  rw [List.map_map, List.filterMap_map, List.filterMap_eq_nil_iff]
  intro x hx
  have habout := (taskMachine_step htask).about x hx
  cases x with
  | pushEvents session id result =>
      rw [show session = (s.heap p).session from habout]
      simp [sentTo, h]
  | pushCompleted session id =>
      rw [show session = (s.heap p).session from habout]
      simp [sentTo, h]
  | _ => rfl

/-- A hidden step is not seen. -/
theorem SameOutside.hidden_step {a : SessionAction} {s' : EventSub} {e : List SessionOutput}
    (hsame : SameOutside A D s t) (hkeep : keeps parse A D s a = false)
    (hstep : (sessionMachine m parse).step s a = some (s', e)) :
  SameOutside A D s' t ∧ e.filterMap (sentTo A) = []
  := by
  cases a with
  | onRecvUnsubscribeEvent env request session =>
      simp only [keeps, Bool.or_eq_false_iff, decide_eq_false_iff_not] at hkeep
      obtain ⟨hsession, hid⟩ := hkeep
      have heq : s.onRecvUnsubscribeEvent parse env request session = (s', e) :=
        Option.some.inj hstep
      rcases onRecvUnsubscribeEvent_cases parse env request session with
        ⟨id, status, _, h⟩ | ⟨id, status, hsome, h⟩
      · rw [h] at heq
        obtain ⟨rfl, rfl⟩ := Prod.mk.inj heq
        exact ⟨hsame, sentTo_sendResponse_of_ne hsession env id status⟩
      · rw [h] at heq
        obtain ⟨rfl, rfl⟩ := Prod.mk.inj heq
        rw [hsome] at hid
        exact ⟨hsame.unsubscribe_left (by simpa using hid),
          sentTo_sendResponse_of_ne hsession env id status⟩
  | task p a =>
      simp only [keeps, Bool.or_eq_false_iff, decide_eq_false_iff_not,
        Bool.not_eq_eq_eq_not, Bool.not_false] at hkeep
      obtain ⟨hsession, hin⟩ := hkeep
      obtain ⟨⟨u, out⟩, htask, heq⟩ := Option.map_eq_some_iff.mp hstep
      obtain ⟨rfl, rfl⟩ := Prod.mk.inj heq
      exact ⟨hsame.stepTask_left hin htask, sentTo_task_of_ne hsession htask⟩
  | _ => cases hkeep

/-- The other steps are the same in both states. -/
theorem SameOutside.kept_step {a : SessionAction} {s' t' : EventSub} {e e' : List SessionOutput}
    (hsame : SameOutside A D s t) (hs : s.WellFormed) (ht : t.WellFormed)
    (hkeep : keeps parse A D s a = true) (hsub : SubscribesOutside parse A D a)
    (hsfits : CancelsFit s a) (htfits : CancelsFit t a)
    (hstep : (sessionMachine m parse).step s a = some (s', e))
    (hstep' : (sessionMachine m parse).step t a = some (t', e')) :
  SameOutside A D s' t' ∧ e = e'
  := by
  cases a with
  | onRecvSubscribeEvent env request session =>
      have heq : s.onRecvSubscribeEvent parse env request session = (s', e) :=
        Option.some.inj hstep
      have heq' : t.onRecvSubscribeEvent parse env request session = (t', e') :=
        Option.some.inj hstep'
      rcases onRecvSubscribeEvent_cases parse env request session with
        ⟨o, h⟩ | ⟨sub, o, hsession, hid, h⟩
      · rw [h] at heq heq'
        obtain ⟨rfl, rfl⟩ := Prod.mk.inj heq
        obtain ⟨rfl, rfl⟩ := Prod.mk.inj heq'
        exact ⟨hsame, rfl⟩
      · rw [h] at heq heq'
        obtain ⟨rfl, rfl⟩ := Prod.mk.inj heq
        obtain ⟨rfl, rfl⟩ := Prod.mk.inj heq'
        refine ⟨hsame.subscribe ?_, rfl⟩
        rw [hsession]
        intro hA
        apply hsub hA _ hid
  | onRecvUnsubscribeEvent env request session =>
      have heq : s.onRecvUnsubscribeEvent parse env request session = (s', e) :=
        Option.some.inj hstep
      have heq' : t.onRecvUnsubscribeEvent parse env request session = (t', e') :=
        Option.some.inj hstep'
      rcases onRecvUnsubscribeEvent_cases parse env request session with
        ⟨id, status, _, h⟩ | ⟨id, status, _, h⟩
      · rw [h] at heq heq'
        obtain ⟨rfl, rfl⟩ := Prod.mk.inj heq
        obtain ⟨rfl, rfl⟩ := Prod.mk.inj heq'
        exact ⟨hsame, rfl⟩
      · rw [h] at heq heq'
        obtain ⟨rfl, rfl⟩ := Prod.mk.inj heq
        obtain ⟨rfl, rfl⟩ := Prod.mk.inj heq'
        exact ⟨hsame.unsubscribe id, rfl⟩
  | executeCancelTasks =>
      obtain ⟨rfl, rfl⟩ := Prod.mk.inj (Option.some.inj hstep)
      obtain ⟨rfl, rfl⟩ := Prod.mk.inj (Option.some.inj hstep')
      exact ⟨hsame.executeCancelTasks hs.counted ht.counted hsfits htfits, rfl⟩
  | executeAddTasks =>
      obtain ⟨rfl, rfl⟩ := Prod.mk.inj (Option.some.inj hstep)
      obtain ⟨rfl, rfl⟩ := Prod.mk.inj (Option.some.inj hstep')
      exact ⟨hsame.executeAddTasks, rfl⟩
  | task p a =>
      obtain ⟨⟨u, out⟩, htask, heq⟩ := Option.map_eq_some_iff.mp hstep
      obtain ⟨⟨u', out'⟩, htask', heq'⟩ := Option.map_eq_some_iff.mp hstep'
      obtain ⟨rfl, rfl⟩ := Prod.mk.inj heq
      obtain ⟨rfl, rfl⟩ := Prod.mk.inj heq'
      have hp : p < s.allocated := by
        by_contra hnot
        rw [hs.unvisited.not_stepTask hs.consistent (Or.inl (Nat.not_lt.mp hnot))] at htask
        cases htask
      have hkeep : (s.heap p).session = A ∨ D (s.heap p).id = false := by
        simpa [keeps] using hkeep
      obtain ⟨hsame, hout⟩ :=
        hsame.stepTask (hsame.heap_eq_of_keeps hp hkeep) htask htask'
      exact ⟨hsame, by rw [hout]⟩

/-- Hidden steps are not seen, and the others are the same, in states that are the same but for
the ids. -/
theorem unwinding (m : Int) (parse : String → Option Json) (A : WsSession)
    (D : String → Bool) :
  Machine.Unwinding (sessionMachine m parse)
    (fun s t => s.WellFormed ∧ t.WellFormed ∧ SameOutside A D s t) (keeps parse A D)
    (fun s a => CancelsFit s a ∧ SubscribesOutside parse A D a) (sentTo A)
  := by
  constructor
  · rintro s t ⟨hs, ht, hsame⟩
    exact ⟨ht, hs, hsame.symm⟩
  · rintro s t s' a e ⟨hs, ht, hsame⟩ hkeep _ hstep
    obtain ⟨hsame, hout⟩ := hsame.hidden_step hkeep hstep
    exact ⟨⟨hs.step hstep, ht, hsame⟩, hout⟩
  · rintro s t s' t' a e e' ⟨hs, ht, hsame⟩ hkeep _ ⟨hsfits, hsub⟩ ⟨htfits, _⟩ hstep hstep'
    obtain ⟨hsame, hout⟩ := hsame.kept_step hs ht hkeep hsub hsfits htfits hstep hstep'
    exact ⟨⟨hs.step hstep, ht.step hstep', hsame⟩, by rw [hout]⟩

/-- States that are the same but for the ids have the same tasks of `A` installed. -/
theorem SameOutside.installed_eq (h : SameOutside A D s t) (hs : s.Consistent)
    (ht : t.Consistent) (id : String) :
  s.installed A id = t.installed A id
  := by
  cases hid : D id with
  | true =>
      have hnone : ∀ {s t : EventSub}, SameOutside A D s t → s.Consistent →
          s.installed A id = none := by
        intro s t h hs
        rw [installed, Option.filter_eq_none_iff]
        intro task htask
        obtain ⟨p, hp, rfl⟩ := Option.map_eq_some_iff.mp htask
        rw [decide_eq_true_iff]
        apply h.owned p (hs.table id p hp).1
        rw [hs.id id p hp, hid]
      rw [hnone h hs, hnone h.symm ht]
  | false =>
      rw [installed, installed, ← h.tasks id hid]
      cases hp : s.tasks[id]? with
      | none => rfl
      | some p =>
          rw [← hs.id id p hp] at hid
          rw [Option.map_some, Option.map_some, h.heap p hid]

/-- In every two runs that have the same steps, but for unsubscriptions of other sessions for
ids under which `A` does not subscribe and steps of the tasks of other sessions under these
ids, `A` has the same tasks installed and is sent the same, when fewer than `2 ^ 32`
cancellations wait at each drain. -/
theorem confined {unbuilt : Nat → Subscription} {as bs : List SessionAction}
    {o o' : List SessionOutput}
    (hkept : (sessionMachine m parse).kept (keeps parse A D) (start unbuilt) as
      = (sessionMachine m parse).kept (keeps parse A D) (start unbuilt) bs)
    (hA : ∀ a ∈ as, SubscribesOutside parse A D a)
    (has : (sessionMachine m parse).Along (fun _ s a => CancelsFit s a) [] (start unbuilt) as)
    (hbs : (sessionMachine m parse).Along (fun _ s a => CancelsFit s a) [] (start unbuilt) bs)
    (hrun : (sessionMachine m parse).run (start unbuilt) as = some (s, o))
    (hrun' : (sessionMachine m parse).run (start unbuilt) bs = some (t, o')) :
  (∀ id, s.installed A id = t.installed A id)
    ∧ o.filterMap (sentTo A) = o'.filterMap (sentTo A)
  := by
  have hstart := wellFormed_start unbuilt
  have hA' : ∀ a ∈ bs, SubscribesOutside parse A D a := by
    intro a ha
    cases a with
    | onRecvSubscribeEvent env request session =>
        apply hA
        apply Machine.mem_of_mem_kept
        rw [hkept]
        apply Machine.mem_kept_of_run (fun _ => rfl) ha hrun'
    | _ => trivial
  obtain ⟨⟨hs, ht, hsame⟩, hsent⟩ := (unwinding m parse A D).runs
    ⟨hstart, hstart, SameOutside.start A D unbuilt⟩ hkept (has.and_forall hA)
    (hbs.and_forall hA') hrun hrun'
  exact ⟨hsame.installed_eq hs.consistent ht.consistent, hsent⟩

/-- Two sessions subscribe, and the second one cancels its subscription before a drain if
`cancels` says so. -/
def ownUnsubscription (cancels : Bool) : List SessionAction :=
  let env : Env := ⟨fun _ => true, fun _ => true⟩
  [.onRecvSubscribeEvent env "1" ⟨0, ""⟩, .onRecvSubscribeEvent env "2" ⟨1, ""⟩,
    .executeAddTasks]
    ++ (if cancels then [.onRecvUnsubscribeEvent env "2" ⟨1, ""⟩] else [])
    ++ [.executeCancelTasks]

theorem confined_ownUnsubscription :
  ∃ s t o o', (sessionMachine 10 parseId).run (start fun _ => ⟨"", "", ⟨0, ""⟩, {}⟩)
      (ownUnsubscription true) = some (s, o)
    ∧ (sessionMachine 10 parseId).run (start fun _ => ⟨"", "", ⟨0, ""⟩, {}⟩)
      (ownUnsubscription false) = some (t, o')
    ∧ (∀ id, s.installed ⟨0, ""⟩ id = t.installed ⟨0, ""⟩ id)
    ∧ o.filterMap (sentTo ⟨0, ""⟩) = o'.filterMap (sentTo ⟨0, ""⟩)
  := by
  have hA : ∀ a ∈ ownUnsubscription true,
      SubscribesOutside parseId ⟨0, ""⟩ (fun id => id == "2") a := by decide
  have hfits : ∀ cancels, (sessionMachine 10 parseId).Along (fun _ s a => CancelsFit s a) []
      (start fun _ => ⟨"", "", ⟨0, ""⟩, {}⟩) (ownUnsubscription cancels) := by decide
  have hkept : (sessionMachine 10 parseId).kept (keeps parseId ⟨0, ""⟩ fun id => id == "2")
      (start fun _ => ⟨"", "", ⟨0, ""⟩, {}⟩) (ownUnsubscription true)
      = (sessionMachine 10 parseId).kept (keeps parseId ⟨0, ""⟩ fun id => id == "2")
        (start fun _ => ⟨"", "", ⟨0, ""⟩, {}⟩) (ownUnsubscription false) := rfl
  refine ⟨_, _, _, _, rfl, rfl, ?_⟩
  apply confined hkept hA (hfits true) (hfits false) rfl rfl

/-- A session cancels the subscription of another one. -/
theorem confined_counterexample :
  ¬ ∀ (m : Int) (parse : String → Option Json) (A : WsSession) (unbuilt : Nat → Subscription)
      (as bs : List SessionAction) (s t : EventSub) (o o' : List SessionOutput),
    (sessionMachine m parse).kept (keeps parse A fun _ => true) (start unbuilt) as
      = (sessionMachine m parse).kept (keeps parse A fun _ => true) (start unbuilt) bs →
    (sessionMachine m parse).run (start unbuilt) as = some (s, o) →
    (sessionMachine m parse).run (start unbuilt) bs = some (t, o') →
      (∀ id, s.installed A id = t.installed A id)
        ∧ o.filterMap (sentTo A) = o'.filterMap (sentTo A)
  := by
  intro h
  have hsame := (h 10 parseId ⟨1, ""⟩ (fun _ => ⟨"", "", ⟨0, ""⟩, {}⟩)
    [.onRecvSubscribeEvent ⟨fun _ => true, fun _ => true⟩ "1" ⟨1, ""⟩, .executeAddTasks,
      .onRecvUnsubscribeEvent ⟨fun _ => true, fun _ => true⟩ "1" ⟨2, ""⟩, .executeCancelTasks]
    [.onRecvSubscribeEvent ⟨fun _ => true, fun _ => true⟩ "1" ⟨1, ""⟩, .executeAddTasks,
      .executeCancelTasks] _ _ _ _ rfl rfl rfl).1 "1"
  have hinstalled : false = true := congrArg Option.isSome hsame
  cases hinstalled

end EventSub
