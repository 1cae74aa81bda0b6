import BcosRpc.Event.Queues
import BcosRpc.Event.Request
import BcosRpc.Event.Response

/-!
# The requests of the sessions

`onRecvSubscribeEvent` and `onRecvUnsubscribeEvent` answer the requests of the sessions.
`sessionMachine` interleaves them with the steps of the worker and the answers of the ledger:
apart from the answers and the building of the tasks, its steps are those of
`eventSubMachine`.
-/

open Std

namespace EP_STATUS_CODE

def SUCCESS : Int := 0
def INVALID_PARAMS : Int := -41000
def GROUP_NOT_EXIST : Int := -41002

end EP_STATUS_CODE

/-- What a session or a task brings about. -/
inductive SessionOutput where
  | response (session : WsSession) (response : EventSubResponse)
  | unsubscribeEventSub (id : String)
  | task (p : Nat) (output : TaskOutput)

/-- A request of a session, with the surroundings it meets, or a step of the worker or of a
task. -/
inductive SessionAction where
  | onRecvSubscribeEvent (env : Env) (request : String) (session : WsSession)
  | onRecvUnsubscribeEvent (env : Env) (request : String) (session : WsSession)
  | executeCancelTasks
  | executeAddTasks
  | task (p : Nat) (action : TaskAction)

/-- The subscription of a request that is decoded. -/
def EventSubRequest.subscription (request : EventSubRequest) (session : WsSession) :
    Subscription where
  id := request.id
  group := request.group
  session := session
  params := request.params.getD {}

namespace EventSub

/-- A response reaches a session that is connected. -/
def sendResponse (env : Env) (session : WsSession) (id : String) (status : Int) :
    List SessionOutput :=
  if !env.isConnected session then [] else [.response session ⟨id, status⟩]

/-- The next object is the task of a subscription. -/
def build (sub : Subscription) (s : EventSub) : EventSub :=
  s.setTask s.allocated (LiveTask.ofSubscription sub)

/-- Build the task of a subscription and put it into the queue. -/
def subscribe (sub : Subscription) (s : EventSub) : EventSub :=
  { s.build sub with allocated := s.allocated + 1 }.subscribeEventSub s.allocated

def onRecvSubscribeEvent (parse : String → Option Json) (env : Env) (request : String)
    (session : WsSession) (s : EventSub) : EventSub × List SessionOutput :=
  let (eventSubRequest, ok) := EventSubRequest.fromJson parse {} request
  if !ok then (s, sendResponse env session eventSubRequest.id EP_STATUS_CODE.INVALID_PARAMS)
  else if !env.hasNodeService eventSubRequest.group then
    (s, sendResponse env session eventSubRequest.id EP_STATUS_CODE.GROUP_NOT_EXIST)
  else
    (s.subscribe (eventSubRequest.subscription session),
      sendResponse env session eventSubRequest.id EP_STATUS_CODE.SUCCESS)

def onRecvUnsubscribeEvent (parse : String → Option Json) (env : Env) (request : String)
    (session : WsSession) (s : EventSub) : EventSub × List SessionOutput :=
  let (esRes, ok) := EventSubUnsubRequest.fromJson parse {} request
  if !ok then (s, sendResponse env session esRes.id EP_STATUS_CODE.INVALID_PARAMS)
  else
    (s.unsubscribeEventSub esRes.id,
      .unsubscribeEventSub esRes.id :: sendResponse env session esRes.id EP_STATUS_CODE.SUCCESS)

end EventSub

/-- The module with its sessions as a machine. -/
def sessionMachine (maxBlockProcessPerLoop : Int) (parse : String → Option Json) :
    Machine EventSub SessionAction SessionOutput where
  step
    | s, .onRecvSubscribeEvent env request session =>
        some (s.onRecvSubscribeEvent parse env request session)
    | s, .onRecvUnsubscribeEvent env request session =>
        some (s.onRecvUnsubscribeEvent parse env request session)
    | s, .executeCancelTasks => some (s.executeCancelTasks, [])
    | s, .executeAddTasks => some (s.executeAddTasks, [])
    | s, .task p a =>
        (s.stepTask maxBlockProcessPerLoop p a).map fun r =>
          (r.1, r.2.map fun o => .task o.1 o.2)

/-- A reader for which every text is a request for the id that the text is. -/
def parseId (text : String) : Option Json :=
  some (.object [("id", .string text), ("group", .string "group0"), ("params", .object [])])

/-! ### The cases of a step -/

/-- The steps of the module with its sessions. -/
inductive SessionStep (m : Int) (parse : String → Option Json) (s : EventSub) :
    SessionAction → EventSub × List SessionOutput → Prop where
  | refused {env : Env} {request : String} {session : WsSession} (id : String) (status : Int)
      (hrefused : (EventSubRequest.fromJson parse {} request).2 = false
        ∨ env.hasNodeService (EventSubRequest.fromJson parse {} request).1.group = false)
      (hstatus : status ≠ EP_STATUS_CODE.SUCCESS) :
      SessionStep m parse s (.onRecvSubscribeEvent env request session)
        (s, EventSub.sendResponse env session id status)
  | subscribed {env : Env} {request : String} {session : WsSession} {decoded : EventSubRequest}
      (hdecoded : EventSubRequest.fromJson parse {} request = (decoded, true))
      (hservice : env.hasNodeService decoded.group = true) :
      SessionStep m parse s (.onRecvSubscribeEvent env request session)
        (s.subscribe (decoded.subscription session),
          EventSub.sendResponse env session decoded.id EP_STATUS_CODE.SUCCESS)
  | notUnsubscribed {env : Env} {request : String} {session : WsSession} (id : String)
      (hrefused : (EventSubUnsubRequest.fromJson parse {} request).2 = false) :
      SessionStep m parse s (.onRecvUnsubscribeEvent env request session)
        (s, EventSub.sendResponse env session id EP_STATUS_CODE.INVALID_PARAMS)
  | unsubscribed {env : Env} {request : String} {session : WsSession}
      {decoded : EventSubUnsubRequest}
      (hdecoded : EventSubUnsubRequest.fromJson parse {} request = (decoded, true)) :
      SessionStep m parse s (.onRecvUnsubscribeEvent env request session)
        (s.unsubscribeEventSub decoded.id, .unsubscribeEventSub decoded.id
          :: EventSub.sendResponse env session decoded.id EP_STATUS_CODE.SUCCESS)
  | cancelled : SessionStep m parse s .executeCancelTasks (s.executeCancelTasks, [])
  | added : SessionStep m parse s .executeAddTasks (s.executeAddTasks, [])
  | stepped {p : Nat} {a : TaskAction} {t : EventSub} {e : List (Nat × TaskOutput)}
      (hstep : s.stepTask m p a = some (t, e)) :
      SessionStep m parse s (.task p a) (t, e.map fun o => .task o.1 o.2)

namespace EventSub

variable {m : Int} {parse : String → Option Json} {s t : EventSub} {a : SessionAction}
  {o : List SessionOutput}

theorem sessionMachine_step {r : EventSub × List SessionOutput}
    (h : (sessionMachine m parse).step s a = some r) :
  SessionStep m parse s a r
  := by
  cases a with
  | onRecvSubscribeEvent env request session =>
      obtain rfl := Option.some.inj h
      rw [onRecvSubscribeEvent]
      cases hdecoded : EventSubRequest.fromJson parse {} request with
      | mk decoded ok =>
          dsimp only
          cases ok with
          | false =>
              apply SessionStep.refused _ _ _ (by decide)
              apply Or.inl
              rw [hdecoded]
          | true =>
              cases hservice : env.hasNodeService decoded.group with
              | false =>
                  apply SessionStep.refused _ _ _ (by decide)
                  apply Or.inr
                  rw [hdecoded]
                  apply hservice
              | true => exact SessionStep.subscribed hdecoded hservice
  | onRecvUnsubscribeEvent env request session =>
      obtain rfl := Option.some.inj h
      rw [onRecvUnsubscribeEvent]
      cases hdecoded : EventSubUnsubRequest.fromJson parse {} request with
      | mk decoded ok =>
          dsimp only
          cases ok with
          | false =>
              apply SessionStep.notUnsubscribed
              rw [hdecoded]
          | true => exact SessionStep.unsubscribed hdecoded
  | executeCancelTasks =>
      obtain rfl := Option.some.inj h
      apply SessionStep.cancelled
  | executeAddTasks =>
      obtain rfl := Option.some.inj h
      apply SessionStep.added
  | task p a =>
      obtain ⟨⟨t, o⟩, hstep, rfl⟩ := Option.map_eq_some_iff.mp h
      apply SessionStep.stepped hstep

/-! ### Invariants -/

/-- An invariant of the module that the building of a task keeps is one of the module with its
sessions. -/
theorem sessionMachine_keeps {I : EventSub → Prop}
    (hbuild : ∀ {s : EventSub} (sub : Subscription), I s → I (s.build sub))
    (hkeep : ∀ {s t : EventSub} {b : EventSubAction} {e : List (Nat × TaskOutput)}, I s →
      (eventSubMachine m).step s b = some (t, e) → I t)
    (hI : I s) (hstep : (sessionMachine m parse).step s a = some (t, o)) :
  I t
  := by
  cases sessionMachine_step hstep with
  | refused _ _ _ _ => exact hI
  | subscribed _ _ => exact hkeep (b := .subscribe) (hbuild _ hI) rfl
  | notUnsubscribed _ _ => exact hI
  | unsubscribed _ => exact hkeep (b := .unsubscribe _) hI rfl
  | cancelled => exact hkeep (b := .executeCancelTasks) hI rfl
  | added => exact hkeep (b := .executeAddTasks) hI rfl
  | stepped htask => exact hkeep (b := .task _ _) hI htask

/-- The building of a task changes no object that is built. -/
theorem build_heap_of_lt {p : Nat} (h : p < s.allocated) (sub : Subscription) :
  (s.build sub).heap p = s.heap p
  := setTask_heap_of_ne (Nat.ne_of_lt h) _ _

theorem Consistent.build (h : s.Consistent) (sub : Subscription) :
  (s.build sub).Consistent
  := by
  constructor
  · intro id p hp
    rw [build_heap_of_lt (h.table id p hp).1]
    apply h.id id p hp
  · apply h.table
  · apply h.queue

/-- A task that is not in the table yet is as it was built. -/
def Unvisited (s : EventSub) : Prop :=
  ∀ p, s.allocated ≤ p ∨ p ∈ s.addTasks →
    s.heap p = LiveTask.ofSubscription (s.heap p).toSubscription

/-- A task that is not in the table yet makes no step. -/
theorem Unvisited.not_stepTask (h : s.Unvisited) (hconsistent : s.Consistent) {p : Nat}
    (hp : s.allocated ≤ p ∨ p ∈ s.addTasks) (m : Int) (a : TaskAction) :
  s.stepTask m p a = none
  := by
  by_contra hne
  obtain ⟨⟨t, o⟩, hstep⟩ := Option.ne_none_iff_exists'.mp hne
  obtain ⟨hreach, task, out, htask, _, _⟩ := stepTask_eq_some hstep
  have hbuilt := h p hp
  rw [hbuilt] at htask
  cases a with
  | visit env =>
      obtain ⟨hlt, hqueue⟩ := hconsistent.table _ p hreach
      rcases hp with hp | hp
      · omega
      · apply hqueue hp
  | blockNumber env error head => cases htask
  | blockData env fetch error block => cases htask

theorem Unvisited.build (h : s.Unvisited) (sub : Subscription) :
  (s.build sub).Unvisited
  := by
  intro p hp
  by_cases heq : p = s.allocated
  · subst heq
    rw [EventSub.build, setTask_heap_self]
    rfl
  · rw [EventSub.build, setTask_heap_of_ne heq]
    apply h p hp

theorem Unvisited.step {b : EventSubAction} {e : List (Nat × TaskOutput)} (h : s.Unvisited)
    (hconsistent : s.Consistent) (hstep : (eventSubMachine m).step s b = some (t, e)) :
  t.Unvisited
  := by
  cases b with
  | subscribe =>
      obtain ⟨rfl, _⟩ := Prod.mk.inj (Option.some.inj hstep)
      intro p hp
      apply h p
      rcases hp with hp | hp
      · apply Or.inl (Nat.le_of_succ_le hp)
      · rcases List.mem_append.mp hp with hp | hp
        · apply Or.inr hp
        · rw [List.mem_singleton.mp hp]
          apply Or.inl le_rfl
  | unsubscribe id =>
      obtain ⟨rfl, _⟩ := Prod.mk.inj (Option.some.inj hstep)
      apply h
  | executeCancelTasks =>
      obtain ⟨rfl, _⟩ := Prod.mk.inj (Option.some.inj hstep)
      rw [EventSub.executeCancelTasks]
      split <;> apply h
  | executeAddTasks =>
      obtain ⟨rfl, _⟩ := Prod.mk.inj (Option.some.inj hstep)
      rw [EventSub.executeAddTasks]
      split
      · apply h
      · intro p hp
        apply h p
        rcases hp with hp | hp
        · apply Or.inl hp
        · cases hp
  | task q a =>
      intro p hp
      have hpq : p ≠ q := by
        rintro rfl
        obtain ⟨_, _, _, _, rfl, _⟩ := stepTask_eq_some hstep
        rw [enqueue_allocated, enqueue_addTasks] at hp
        have hnone := h.not_stepTask hconsistent hp m a
        rw [show (eventSubMachine m).step s (.task p a) = none from hnone] at hstep
        cases hstep
      obtain ⟨_, task, out, _, rfl, _⟩ := stepTask_eq_some hstep
      rw [enqueue_allocated, enqueue_addTasks] at hp
      rw [enqueue_heap, setTask_heap_of_ne hpq]
      apply h p hp

/-- What is known of every state that is reached with the sessions. -/
structure WellFormed (s : EventSub) : Prop where
  consistent : s.Consistent
  counted : s.Counted
  unvisited : s.Unvisited

theorem wellFormed_start (unbuilt : Nat → Subscription) :
  (start unbuilt).WellFormed
  := by
  constructor
  · apply consistent_start
  · apply counted_start
  · intro p _
    rfl

theorem WellFormed.step (h : s.WellFormed)
    (hstep : (sessionMachine m parse).step s a = some (t, o)) :
  t.WellFormed
  := by
  apply sessionMachine_keeps _ _ h hstep
  · intro s sub h
    exact ⟨h.consistent.build sub, ⟨h.counted.add, h.counted.cancel⟩, h.unvisited.build sub⟩
  · intro s t b e h hstep
    exact ⟨h.consistent.step hstep, h.counted.step hstep, h.unvisited.step h.consistent hstep⟩

theorem wellFormed_run {unbuilt : Nat → Subscription} {as : List SessionAction}
    (h : (sessionMachine m parse).run (start unbuilt) as = some (t, o)) :
  t.WellFormed
  := Machine.run_invariant (I := fun _ s => s.WellFormed) (o := []) (fun hI => hI.step)
    (wellFormed_start unbuilt) h

end EventSub
