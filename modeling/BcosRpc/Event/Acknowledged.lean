import BcosRpc.Event.Sessions

/-!
# Acknowledged subscriptions

A subscription is acknowledged with `SUCCESS` when its task is put into the queue, and the
worker adds the task to the table later, unless the table has a task under the id.
`EventSub.holds_iff` says when the table then holds the task of the acknowledged request.
-/

open Std

namespace EventSub

variable {m : Int} {parse : String → Option Json} {s t : EventSub}

/-- The subscription a request asks for. -/
def requested (parse : String → Option Json) (request : String) (session : WsSession) :
    Subscription :=
  (EventSubRequest.fromJson parse {} request).1.subscription session

/-- The table holds the task with a number under the id of a subscription, and the task is as
it was built for it. -/
def Holds (s : EventSub) (sub : Subscription) (p : Nat) : Prop :=
  s.tasks[sub.id]? = some p ∧ s.heap p = LiveTask.ofSubscription sub

/-- The cancellations among outputs. -/
def cancelled (o : List SessionOutput) : List String :=
  o.filterMap fun
    | .unsubscribeEventSub id => some id
    | .task _ (.unsubscribeEventSub id) => some id
    | _ => none

/-- A response with `SUCCESS` means that the task of the request is in the queue. -/
theorem eq_subscribe_of_success {env : Env} {request : String} {session : WsSession}
    {o : List SessionOutput} {id : String}
    (hstep : (sessionMachine m parse).step s (.onRecvSubscribeEvent env request session)
      = some (t, o))
    (hsuccess : .response session ⟨id, EP_STATUS_CODE.SUCCESS⟩ ∈ o) :
  t = s.subscribe (requested parse request session)
  := by
  cases sessionMachine_step hstep with
  | refused _ status _ hstatus =>
      rw [sendResponse] at hsuccess
      split at hsuccess
      · cases hsuccess
      · simp only [List.mem_singleton, SessionOutput.response.injEq, EventSubResponse.mk.injEq,
          true_and] at hsuccess
        apply absurd hsuccess.2.symm hstatus
  | subscribed hdecoded _ => rw [requested, hdecoded]

/-- Between two drains of the queue, the tasks in it stay where and as they are. -/
theorem WellFormed.queue_step {a : SessionAction} {o : List SessionOutput} (h : s.WellFormed)
    (ha : a ≠ .executeAddTasks) (hstep : (sessionMachine m parse).step s a = some (t, o)) :
  s.addTasks <+: t.addTasks ∧ ∀ p ∈ s.addTasks, t.heap p = s.heap p
  := by
  cases sessionMachine_step hstep with
  | refused _ _ _ _ => exact ⟨List.prefix_refl _, fun _ _ => rfl⟩
  | subscribed _ _ =>
      constructor
      · apply List.prefix_append
      · intro p hp
        apply build_heap_of_lt (h.consistent.queue p hp)
  | notUnsubscribed _ _ => exact ⟨List.prefix_refl _, fun _ _ => rfl⟩
  | unsubscribed _ => exact ⟨List.prefix_refl _, fun _ _ => rfl⟩
  | cancelled =>
      rw [executeCancelTasks_heap, executeCancelTasks]
      split <;> exact ⟨List.prefix_refl _, fun _ _ => rfl⟩
  | added => exact absurd rfl ha
  | @stepped q a _ _ htask =>
      have hnot : ∀ p ∈ s.addTasks, p ≠ q := by
        rintro p hp rfl
        rw [h.unvisited.not_stepTask h.consistent (Or.inr hp)] at htask
        cases htask
      obtain ⟨_, task, out, _, rfl, _⟩ := stepTask_eq_some htask
      rw [enqueue_addTasks, enqueue_heap]
      constructor
      · apply List.prefix_refl
      · intro p hp
        apply setTask_heap_of_ne (hnot p hp)

theorem WellFormed.queue_run {as : List SessionAction} {o : List SessionOutput}
    (h : s.WellFormed) (has : .executeAddTasks ∉ as)
    (hrun : (sessionMachine m parse).run s as = some (t, o)) :
  s.addTasks <+: t.addTasks ∧ ∀ p ∈ s.addTasks, t.heap p = s.heap p
  := by
  induction as generalizing s o with
  | nil =>
      obtain ⟨rfl, rfl⟩ := Prod.mk.inj (Option.some.inj hrun)
      exact ⟨List.prefix_refl _, fun _ _ => rfl⟩
  | cons a as ih =>
      rw [List.mem_cons, not_or] at has
      obtain ⟨u, e, o', hstep, hrest, rfl⟩ := (Machine.run_cons _).mp hrun
      obtain ⟨hpre, hsame⟩ := h.queue_step (Ne.symm has.1) hstep
      obtain ⟨hpre', hsame'⟩ := ih (h.step hstep) has.2 hrest
      constructor
      · apply hpre.trans hpre'
      · intro p hp
        rw [hsame' p (hpre.subset hp), hsame p hp]

/-- The first task in a queue under an id is the one with a number exactly when no task ahead
of it has the id. -/
theorem find?_append_cons_iff {heap : Nat → LiveTask} {ahead later : List Nat} {p : Nat}
    {id : String} (hid : (heap p).id = id) (hp : p ∉ ahead) :
  (ahead ++ p :: later).find? (fun q => (heap q).id = id) = some p
    ↔ ∀ q ∈ ahead, (heap q).id ≠ id
  := by
  rw [List.find?_append, List.find?_cons_of_pos (by simpa using hid)]
  constructor
  · intro h q hq heq
    cases hfind : ahead.find? fun q => (heap q).id = id with
    | none =>
        have hnot := List.find?_eq_none.mp hfind q hq
        apply hnot (decide_eq_true heq)
    | some r =>
        rw [hfind] at h
        obtain rfl := Option.some.inj h
        apply hp (List.mem_of_find?_eq_some hfind)
  · intro h
    rw [List.find?_eq_none.mpr fun q hq => by simpa using h q hq]
    rfl

/-- When a task is in the queue as it was built, the table holds it after the queue is drained
exactly when no task ahead of it has its id, the table has none under the id, and the counter
of the queue is not at zero. -/
theorem WellFormed.holds_executeAddTasks_iff (h : s.WellFormed) {ahead later : List Nat}
    {p : Nat} {sub : Subscription} (hqueue : s.addTasks = ahead ++ p :: later)
    (hbuilt : s.heap p = LiveTask.ofSubscription sub) (hp : p ∉ ahead) :
  s.executeAddTasks.Holds sub p
    ↔ (∀ q ∈ ahead, (s.heap q).id ≠ sub.id) ∧ sub.id ∉ s.tasks
      ∧ s.addTasks.length % 2 ^ 32 ≠ 0
  := by
  have hid : (s.heap p).id = sub.id := by
    rw [hbuilt]
    rfl
  have hmem : p ∈ s.addTasks := by
    rw [hqueue]
    apply List.mem_append_right _ List.mem_cons_self
  have hnew : s.tasks[sub.id]? ≠ some p := fun hp => (h.consistent.table _ p hp).2 hmem
  rw [Holds, executeAddTasks_heap, executeAddTasks]
  split
  · rename_i hcount
    have hwrapped := h.counted.addTaskCount_eq_zero_iff.mp hcount
    constructor
    · rintro ⟨htable, _⟩
      apply absurd htable hnew
    · rintro ⟨_, _, hlength⟩
      apply absurd hwrapped hlength
  · rename_i hcount
    have hlength := mt h.counted.addTaskCount_eq_zero_iff.mpr hcount
    rw [getElem?_foldl_insertTask, hqueue, Option.or_eq_some_iff, find?_append_cons_iff hid hp,
      ← hqueue]
    constructor
    · rintro ⟨htable | ⟨hnone, hahead⟩, _⟩
      · apply absurd htable hnew
      · refine ⟨hahead, ?_, hlength⟩
        rw [ExtTreeMap.mem_iff_isSome_getElem?, hnone]
        exact Bool.false_ne_true
    · rintro ⟨hahead, htable, _⟩
      exact ⟨Or.inr ⟨ExtTreeMap.getElem?_eq_none htable, hahead⟩, hbuilt⟩

/-- In every run, after a subscription is acknowledged with `SUCCESS` and the queue is drained
for the first time since, the table holds the task of that request exactly when no task ahead
of it in the queue had its id, the table had none under it, and the number of tasks in the
queue was not a multiple of `2 ^ 32`. -/
theorem holds_iff {unbuilt : Nat → Subscription} {earlier between : List SessionAction}
    {s' : EventSub} {o o' o'' : List SessionOutput} {env : Env} {request id : String}
    {session : WsSession}
    (hearlier : (sessionMachine m parse).run (start unbuilt) earlier = some (s, o))
    (hrequest : (sessionMachine m parse).step s (.onRecvSubscribeEvent env request session)
      = some (s', o'))
    (hsuccess : .response session ⟨id, EP_STATUS_CODE.SUCCESS⟩ ∈ o')
    (hbetween : (sessionMachine m parse).run s' between = some (t, o''))
    (hdrain : .executeAddTasks ∉ between) :
  t.executeAddTasks.Holds (requested parse request session) s.allocated
    ↔ (∀ q ∈ s.addTasks, (s.heap q).id ≠ (requested parse request session).id)
      ∧ (requested parse request session).id ∉ t.tasks ∧ t.addTasks.length % 2 ^ 32 ≠ 0
  := by
  have hs := wellFormed_run hearlier
  have hs' := hs.step hrequest
  have ht : t.WellFormed := Machine.run_invariant (I := fun _ s => s.WellFormed) (o := [])
    (fun hI => hI.step) hs' hbetween
  obtain ⟨⟨later, hqueue⟩, hsame⟩ := hs'.queue_run hdrain hbetween
  obtain rfl := eq_subscribe_of_success hrequest hsuccess
  have hmem : ∀ q ∈ s.addTasks, q ∈ s.addTasks ++ [s.allocated] :=
    fun q hq => List.mem_append_left _ hq
  have hahead : ∀ q ∈ s.addTasks, t.heap q = s.heap q := by
    intro q hq
    rw [hsame q (hmem q hq)]
    apply build_heap_of_lt (hs.consistent.queue q hq)
  have hbuilt : t.heap s.allocated
      = LiveTask.ofSubscription (requested parse request session) := by
    rw [hsame _ (List.mem_append_right _ (List.mem_singleton.mpr rfl))]
    apply setTask_heap_self
  have hqueue' : t.addTasks = s.addTasks ++ s.allocated :: later := by
    rw [← hqueue]
    show (s.addTasks ++ [s.allocated]) ++ later = s.addTasks ++ s.allocated :: later
    rw [List.append_assoc, List.singleton_append]
  have hnew : s.allocated ∉ s.addTasks :=
    fun h => Nat.lt_irrefl _ (hs.consistent.queue _ h)
  rw [ht.holds_executeAddTasks_iff hqueue' hbuilt hnew]
  apply and_congr_left
  intro _
  apply forall₂_congr
  intro q hq
  rw [hahead q hq]

/-- The request of a session that is connected, for a group with a node service. -/
def sameId (object : Nat) : SessionAction :=
  .onRecvSubscribeEvent ⟨fun _ => true, fun _ => true⟩ "1" ⟨object, ""⟩

theorem holds_iff_sameId :
  ∃ s s' o o', (sessionMachine 10 parseId).run (start fun _ => ⟨"", "", ⟨0, ""⟩, {}⟩) [sameId 0]
      = some (s, o)
    ∧ (sessionMachine 10 parseId).step s (sameId 1) = some (s', o')
    ∧ (s'.executeAddTasks.Holds (requested parseId "1" ⟨1, ""⟩) s.allocated
      ↔ (∀ q ∈ s.addTasks, (s.heap q).id ≠ (requested parseId "1" ⟨1, ""⟩).id)
        ∧ (requested parseId "1" ⟨1, ""⟩).id ∉ s'.tasks ∧ s'.addTasks.length % 2 ^ 32 ≠ 0)
  := by
  obtain ⟨s, o, hrun⟩ : ∃ s o, (sessionMachine 10 parseId).run
      (start fun _ => ⟨"", "", ⟨0, ""⟩, {}⟩) [sameId 0] = some (s, o) := ⟨_, _, rfl⟩
  have hrequest : (sessionMachine 10 parseId).step s (sameId 1)
      = some (s.subscribe (requested parseId "1" ⟨1, ""⟩),
        [.response ⟨1, ""⟩ ⟨"1", EP_STATUS_CODE.SUCCESS⟩]) := rfl
  refine ⟨s, _, o, _, hrun, hrequest, ?_⟩
  apply holds_iff hrun hrequest List.mem_cons_self rfl List.not_mem_nil

/-- Two sessions subscribe under the same id, and both get the response `SUCCESS`; the table
does not hold the task of the second one. -/
theorem holds_counterexample :
  ¬ ∀ (m : Int) (parse : String → Option Json) (unbuilt : Nat → Subscription)
      (earlier between : List SessionAction) (s s' t : EventSub) (o o' o'' : List SessionOutput)
      (env : Env) (request id : String) (session : WsSession),
    (sessionMachine m parse).run (start unbuilt) earlier = some (s, o) →
    (sessionMachine m parse).step s (.onRecvSubscribeEvent env request session)
      = some (s', o') →
    .response session ⟨id, EP_STATUS_CODE.SUCCESS⟩ ∈ o' →
    (sessionMachine m parse).run s' between = some (t, o'') → .executeAddTasks ∉ between →
    id ∉ cancelled o'' →
      t.executeAddTasks.Holds (requested parse request session) s.allocated
  := by
  intro h
  have hholds := h 10 parseId (fun _ => ⟨"", "", ⟨0, ""⟩, {}⟩) [sameId 0] [] _ _ _ _ _ _
    ⟨fun _ => true, fun _ => true⟩ "1" "1" ⟨1, ""⟩ rfl rfl List.mem_cons_self rfl
    List.not_mem_nil List.not_mem_nil
  have htable : some 0 = some 1 := hholds.1
  cases htable

end EventSub
