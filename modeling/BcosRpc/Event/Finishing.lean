import BcosRpc.Event.Delivery
import BcosRpc.Event.Return

/-!
# A range can always be finished

`events_delivered` says what a task has pushed when it is complete, not that it gets there. Here
no failure leaves a task without a way to go on: a task that is working has a fetch in flight or
is cancelled. From every state that a run of the module with its worker reaches, a few steps of a
task that is not cancelled, which find the session connected, the node service in place and the
chain long enough, finish the range, with steps of the worker for others in between.
`EventSub.range_finishes` bounds their number.
-/

/-- The steps of a task while its surroundings stay as they are and the ledger answers every
request, with the head and the blocks of a chain. -/
inductive Served (chain : Int → Block) (env : Env) (head : Nat) : TaskAction → Prop where
  | visit : Served chain env head (.visit env)
  | blockNumber : Served chain env head (.blockNumber env none head)
  | blockData (fetch : BlockFetch) :
      Served chain env head (.blockData env fetch none (chain fetch.blockNumber))

/-! ### The invariant -/

/-- What is known of a task beyond its messages: while it works, it waits for a fetch, unless it
is cancelled, and it asks for the block number only when it is not complete. -/
structure Finishing (sub : Subscription) (chain : Int → Block) (o : List TaskOutput)
    (task : LiveTask) : Prop where
  delivering : Delivering sub chain o task
  waits : task.work = true → unsubscribes o = false → task.blockFetches ≠ []
  asked : 0 < task.blockNumberQueries → task.isCompleted = false

variable {m : Int} {sub : Subscription} {chain : Int → Block} {o out : List TaskOutput}
  {task next : LiveTask} {a : TaskAction} {env : Env} {head : Nat}

theorem Continues.blockNumberQueries_eq {b e : Int} (h : Continues env b e task (next, out)) :
  next.blockNumberQueries = task.blockNumberQueries
  := by
  cases h <;> rfl

/-- A batch that goes on waits for a fetch, unless it is cancelled for want of a node service. -/
theorem Continues.waits {b e : Int} (h : Continues env b e task (next, out))
    (hwork : next.work = true) (hkept : unsubscribes out = false) :
  next.blockFetches ≠ []
  := by
  cases h with
  | ended _ => cases hwork
  | noNodeService _ _ => cases hkept
  | fetch _ _ => simp

theorem Finishing.start (hto : 0 < sub.params.toBlock) :
  Finishing sub chain [] (LiveTask.ofSubscription sub)
  := by
  constructor
  · apply Delivering.start hto
  · intro hwork
    cases hwork
  · intro hquery
    cases hquery

theorem Finishing.waits_step (h : Finishing sub chain o task)
    (hstep : TaskStep m task a (next, out)) (hwork : next.work = true)
    (hkept : unsubscribes (o ++ out) = false) :
  next.blockFetches ≠ []
  := by
  rw [unsubscribes_append, Bool.or_eq_false_iff] at hkept
  obtain ⟨hbefore, hnow⟩ := hkept
  cases hstep with
  | opened _ _ _ hr => exact hr.waits hwork hnow
  | fetchFailed _ _ => cases hwork
  | @fetched env fetch error block _ rest _ _ hr =>
      apply hr.waits hwork
      rw [unsubscribes_append, unsubscribes_pushed] at hnow
      apply hnow
  | _ => exact h.waits hwork hbefore

/-- A query waits after a step only when it waited before, and no other request did, or when it
was made by the visit. -/
theorem Finishing.asked_step (h : Finishing sub chain o task) (hone : OneRequest task)
    (hstep : TaskStep m task a (next, out)) (hquery : 0 < next.blockNumberQueries) :
  next.isCompleted = false
  := by
  cases hstep with
  | asked hcompleted _ _ => exact hcompleted
  | queryFailed _ _ => exact absurd hone.removeQuery (Nat.ne_of_gt hquery)
  | waiting _ _ _ => exact absurd hone.removeQuery (Nat.ne_of_gt hquery)
  | opened _ _ _ hr =>
      rw [hr.blockNumberQueries_eq] at hquery
      apply absurd hone.removeQuery (Nat.ne_of_gt hquery)
  | fetchFailed hfetch _ => exact absurd (hone.queries_eq_zero hfetch) (Nat.ne_of_gt hquery)
  | fetched hfetch _ hr =>
      rw [hr.blockNumberQueries_eq] at hquery
      apply absurd (hone.queries_eq_zero hfetch) (Nat.ne_of_gt hquery)
  | _ => exact h.asked hquery

theorem Finishing.step (h : Finishing sub chain o task) (hfrom : 0 < sub.params.fromBlock)
    (hanswered : Answered task a) (htells : TellsChain chain sub.session a)
    (hstep : (taskMachine m).step task a = some (next, out)) :
  Finishing sub chain (o ++ out) next
  := by
  have htask := taskMachine_step hstep
  constructor
  · apply h.delivering.step hfrom hanswered htells hstep
  · apply h.waits_step htask
  · apply h.asked_step h.delivering.tracked.one htask

/-! ### The steps that are left -/

/-- How many steps a task takes at most before it is complete, when every one is served: three
for each block that is left, less those taken for the block at hand. -/
def LiveTask.stepsLeft (task : LiveTask) : Nat :=
  3 * (task.params.toBlock + 1 - max task.cursor task.params.fromBlock).toNat
    - if task.blockFetches ≠ [] then 2 else if 0 < task.blockNumberQueries then 1 else 0

/-- What the surroundings are while a task is served: its session is connected, its group has a
node service, and the chain has the last block requested. -/
structure Serving (sub : Subscription) (env : Env) (head : Nat) : Prop where
  connected : env.isConnected sub.session = true
  hasNodeService : env.hasNodeService sub.group = true
  head : sub.params.toBlock ≤ head

theorem LiveTask.stepsLeft_le (task : LiveTask) :
  task.stepsLeft
    ≤ 3 * (task.params.toBlock + 1 - max task.cursor task.params.fromBlock).toNat
  := Nat.sub_le _ _

theorem Served.tellsChain (h : Served chain env head a)
    (hconn : env.isConnected sub.session = true) :
  TellsChain chain sub.session a
  := by
  cases h with
  | blockData fetch => exact fun _ => ⟨rfl, hconn⟩
  | _ => trivial

/-- A batch of a group with a node service goes on without a cancellation. -/
theorem Continues.served {b e : Int} (h : Continues env b e task (next, out))
    (hservice : env.hasNodeService task.group = true) :
  unsubscribes out = false ∧ next.cursor = task.cursor ∧ next.params = task.params
  := by
  cases h with
  | ended _ => exact ⟨rfl, rfl, rfl⟩
  | noNodeService _ hnone =>
      rw [hservice] at hnone
      cases hnone
  | fetch _ _ => exact ⟨rfl, rfl, rfl⟩

/-- The fetch in flight is for the block that is left to process next. -/
theorem Finishing.blockNumber_eq (h : Finishing sub chain o task)
    (hfrom : 0 < sub.params.fromBlock) {fetch : BlockFetch} (hfetch : fetch ∈ task.blockFetches) :
  fetch.blockNumber = max task.cursor sub.params.fromBlock
  := by
  have hparams : task.params = sub.params :=
    congrArg Subscription.params h.delivering.subscription
  have hretry := h.delivering.retry
  rw [h.delivering.tracked.one.only hfetch, hparams] at hretry
  obtain ⟨first, hasked⟩ := hretry.exists_firstAsked
  have hprogress := hretry.progress first hasked
  have hblock := (hprogress.inFlight fetch List.mem_cons_self).1
  have hfirst := hprogress.named hfrom
  have hmoved := hprogress.moved
  rw [resumeBlock] at hblock
  split at hblock <;> omega

/-- A query that is answered opens a batch. -/
theorem Finishing.opens (h : Finishing sub chain o task) (hm : 1 ≤ m)
    (hrange : 0 < sub.params.fromBlock ∧ sub.params.fromBlock ≤ sub.params.toBlock)
    (hserving : Serving sub env head)
    (hcompleted : task.isCompleted = false) (hquery : 0 < task.blockNumberQueries) :
  ∃ next out, (taskMachine m).step task (.blockNumber env none head) = some (next, out)
    ∧ unsubscribes out = false ∧ next.stepsLeft < task.stepsLeft
  := by
  have hsub := h.delivering.subscription
  have hparams : task.params = sub.params := congrArg Subscription.params hsub
  have hservice : env.hasNodeService task.group = true := by
    rw [show task.group = sub.group from congrArg Subscription.group hsub]
    apply hserving.hasNodeService
  have hto := h.delivering.tracked.bounded
  have hcursor := LiveTask.cursor_le_of_not_completed hcompleted hto.le
  have hhead := hserving.head
  have hnil := h.delivering.tracked.one.fetches_eq_nil hquery
  have hstart : task.startBlock head ≤ head ∧ task.startBlock head ≤ task.params.toBlock := by
    rw [LiveTask.startBlock, hparams]
    rw [hparams] at hcursor hto
    split
    · split <;> omega
    · omega
  have hend : task.startBlock head ≤ task.endBlock m head :=
    (LiveTask.startBlock_le_endBlock_iff hstart.1).mpr ⟨by omega, fun _ => hstart.2⟩
  obtain ⟨next, out, hstep⟩ : ∃ next out,
      (taskMachine m).step task (.blockNumber env none head) = some (next, out) :=
    ⟨_, _, if_pos hquery⟩
  use next, out, hstep
  cases taskMachine_step hstep with
  | queryFailed _ herror => cases herror
  | waiting _ _ hwaits => omega
  | opened _ _ _ hr =>
      cases hr with
      | ended hlt => exact absurd hend (Int.not_le.mpr hlt)
      | noNodeService _ hnone => exact absurd (hnone.symm.trans hservice) Bool.false_ne_true
      | fetch _ _ =>
          use rfl
          have hleft : max task.cursor task.params.fromBlock ≤ task.params.toBlock := by
            rw [hparams] at hcursor ⊢
            omega
          show 3 * (task.params.toBlock + 1 - max task.cursor task.params.fromBlock).toNat - _ < _
          rw [LiveTask.stepsLeft, hnil]
          simp [hquery]
          omega

/-- A fetch that is answered brings the task on by a block. -/
theorem Finishing.fetches (h : Finishing sub chain o task)
    (hrange : 0 < sub.params.fromBlock ∧ sub.params.fromBlock ≤ sub.params.toBlock)
    (hserving : Serving sub env head) {fetch : BlockFetch} (hfetch : fetch ∈ task.blockFetches) :
  ∃ next out, (taskMachine m).step task
      (.blockData env fetch none (chain fetch.blockNumber)) = some (next, out)
    ∧ unsubscribes out = false ∧ next.stepsLeft < task.stepsLeft
  := by
  have hsub := h.delivering.subscription
  have hparams : task.params = sub.params := congrArg Subscription.params hsub
  have hservice : env.hasNodeService task.group = true := by
    rw [show task.group = sub.group from congrArg Subscription.group hsub]
    apply hserving.hasNodeService
  have hblock := h.blockNumber_eq hrange.1 hfetch
  obtain ⟨⟨h0, hlast⟩, _, hend⟩ := h.delivering.tracked.fetch fetch hfetch
  have hnil := h.delivering.tracked.one.removeFetch hfetch
  have hnone := h.delivering.tracked.one.queries_eq_zero hfetch
  have hne := List.ne_nil_of_mem hfetch
  have hmoved : ((task.removeFetch fetch).setCurrentBlockNumber (fetch.blockNumber + 1)).cursor
      = fetch.blockNumber + 1 := by
    rw [LiveTask.cursor_setCurrentBlockNumber, LiveTask.cursor_removeFetch]
    omega
  obtain ⟨next, out, hstep⟩ : ∃ next out, (taskMachine m).step task
      (.blockData env fetch none (chain fetch.blockNumber)) = some (next, out) :=
    ⟨_, _, if_pos hfetch⟩
  use next, out, hstep
  cases taskMachine_step hstep with
  | fetchFailed _ herror => cases herror
  | fetched _ _ hr =>
      obtain ⟨hout, hcursor, hsame⟩ := hr.served hservice
      constructor
      · rw [unsubscribes_append, unsubscribes_pushed]
        apply hout
      · have hbound := next.stepsLeft_le
        rw [hcursor, hmoved, hsame.trans hparams] at hbound
        rw [hparams] at hend
        have hleft : task.stepsLeft
            = 3 * (sub.params.toBlock + 1 - max task.cursor sub.params.fromBlock).toNat - 2 := by
          rw [LiveTask.stepsLeft, if_pos (List.ne_nil_of_mem hfetch), hparams]
        omega

/-- A task that waits for nothing asks for the block number. -/
theorem Finishing.asks (h : Finishing sub chain o task)
    (hrange : 0 < sub.params.fromBlock ∧ sub.params.fromBlock ≤ sub.params.toBlock)
    (hserving : Serving sub env head) (hcompleted : task.isCompleted = false)
    (hwork : task.work = false) (hquery : task.blockNumberQueries = 0) :
  ∃ next out, (taskMachine m).step task (.visit env) = some (next, out)
    ∧ unsubscribes out = false ∧ next.stepsLeft < task.stepsLeft
  := by
  have hsub := h.delivering.subscription
  have hparams : task.params = sub.params := congrArg Subscription.params hsub
  have hsession : task.session = sub.session := congrArg Subscription.session hsub
  have hgroup : task.group = sub.group := congrArg Subscription.group hsub
  have hto := h.delivering.tracked.bounded
  have hcursor := LiveTask.cursor_le_of_not_completed hcompleted hto.le
  have hnil := h.delivering.tracked.fetches_eq_nil hwork
  obtain ⟨next, out, hstep⟩ : ∃ next out,
      (taskMachine m).step task (.visit env) = some (next, out) := ⟨_, _, rfl⟩
  use next, out, hstep
  cases taskMachine_step hstep with
  | disconnected hconn =>
      rw [hsession, hserving.connected] at hconn
      cases hconn
  | completed _ hend =>
      rw [hcompleted] at hend
      cases hend
  | working _ hset =>
      rw [hwork] at hset
      cases hset
  | noNodeService _ _ hnone =>
      rw [hgroup, hserving.hasNodeService] at hnone
      cases hnone
  | asked _ _ _ =>
      use rfl
      have hleft : max task.cursor task.params.fromBlock ≤ task.params.toBlock := by
        rw [hparams] at hcursor ⊢
        omega
      show 3 * (task.params.toBlock + 1 - max task.cursor task.params.fromBlock).toNat - _ < _
      rw [LiveTask.stepsLeft, hnil]
      simp [hquery, hnil]
      omega

/-- A served task that is not complete has a step that brings it on. -/
theorem Finishing.advance (h : Finishing sub chain o task) (hkept : unsubscribes o = false)
    (hm : 1 ≤ m)
    (hrange : 0 < sub.params.fromBlock ∧ sub.params.fromBlock ≤ sub.params.toBlock)
    (hserving : Serving sub env head) (hcompleted : task.isCompleted = false) :
  ∃ a next out, Served chain env head a ∧ (taskMachine m).step task a = some (next, out)
    ∧ (Finishing sub chain (o ++ out) next ∧ unsubscribes (o ++ out) = false)
    ∧ next.stepsLeft < task.stepsLeft
  := by
  obtain ⟨a, next, out, ha, hanswered, hstep, hout, hlower⟩ : ∃ a next out,
      Served chain env head a ∧ Answered task a ∧ (taskMachine m).step task a = some (next, out)
        ∧ unsubscribes out = false ∧ next.stepsLeft < task.stepsLeft := by
    rcases Nat.eq_zero_or_pos task.blockNumberQueries with hnone | hquery
    · cases hwork : task.work with
      | false =>
          obtain ⟨next, out, hstep, hout, hlower⟩ := h.asks hrange hserving hcompleted hwork hnone
          exact ⟨_, next, out, Served.visit, hnone, hstep, hout, hlower⟩
      | true =>
          obtain ⟨fetch, hfetch⟩ := List.exists_mem_of_ne_nil _ (h.waits hwork hkept)
          obtain ⟨next, out, hstep, hout, hlower⟩ := h.fetches hrange hserving hfetch
          exact ⟨_, next, out, Served.blockData fetch, trivial, hstep, hout, hlower⟩
    · obtain ⟨next, out, hstep, hout, hlower⟩ := h.opens hm hrange hserving hcompleted hquery
      exact ⟨_, next, out, Served.blockNumber, trivial, hstep, hout, hlower⟩
  refine ⟨a, next, out, ha, hstep, ⟨?_, ?_⟩, hlower⟩
  · apply h.step hrange.1 hanswered (ha.tellsChain hserving.connected) hstep
  · rw [unsubscribes_append, hkept]
    apply hout

/-- A served task becomes complete. -/
theorem Finishing.exists_run (h : Finishing sub chain o task) (hkept : unsubscribes o = false)
    (hm : 1 ≤ m)
    (hrange : 0 < sub.params.fromBlock ∧ sub.params.fromBlock ≤ sub.params.toBlock)
    (hserving : Serving sub env head) :
  ∃ bs next out, bs.length ≤ task.stepsLeft ∧ (∀ b ∈ bs, Served chain env head b)
    ∧ (taskMachine m).run task bs = some (next, out)
    ∧ (Finishing sub chain (o ++ out) next ∧ unsubscribes (o ++ out) = false)
    ∧ next.isCompleted = true
  := by
  apply Machine.exists_run_of_rank (M := taskMachine m)
    (I := fun o task => Finishing sub chain o task ∧ unsubscribes o = false)
    (C := Served chain env head) (G := fun task => task.isCompleted = true)
    LiveTask.stepsLeft _ ⟨h, hkept⟩
  intro o task h hcompleted
  apply h.1.advance h.2 hm hrange hserving (Bool.eq_false_iff.mpr hcompleted)

/-- The visit to a complete task sends `PUSH_COMPLETED`. -/
theorem Finishing.completes (h : Finishing sub chain o task) (hfrom : 0 < sub.params.fromBlock)
    (hserving : Serving sub env head) (hcompleted : task.isCompleted = true) :
  ∃ out, (taskMachine m).step task (.visit env) = some (task, out)
    ∧ Delivering sub chain (o ++ out) task ∧ sent (o ++ out) = true
  := by
  have hconn : env.isConnected task.session = true := by
    rw [show task.session = sub.session from
      congrArg Subscription.session h.delivering.subscription]
    apply hserving.connected
  have hlast : (taskMachine m).step task (.visit env) = some (task,
      [.unsubscribeEventSub task.id, .pushCompleted task.session task.id]) := by
    simp [taskMachine, LiveTask.executeEventSubTask, LiveTask.checkConnAvailable,
      LiveTask.onTaskComplete, LiveTask.callback, LiveTask.sendEvents, hconn, hcompleted]
  use [.unsubscribeEventSub task.id, .pushCompleted task.session task.id], hlast
  constructor
  · have hanswered : Answered task (.visit env) := by
      by_contra hne
      have hquery := h.asked (Nat.pos_of_ne_zero hne)
      rw [hcompleted] at hquery
      cases hquery
    have htells : TellsChain chain sub.session (.visit env) := trivial
    apply h.delivering.step hfrom hanswered htells hlast
  · simp [sent]

/-! ### Runs of the worker -/

namespace EventSub

variable {p : Nat} {s : EventSub × WorkerPhase}

/-- The steps while the surroundings stay as they are: the worker goes on, and the requests of a
task are answered from the chain. -/
inductive WhileServed (chain : Int → Block) (env : Env) (head p : Nat) : EventSubAction → Prop where
  | elsewhere {a : EventSubAction} (h : Elsewhere env p a) : WhileServed chain env head p a
  | task {b : TaskAction} (h : Served chain env head b) : WhileServed chain env head p (.task p b)

/-- A run of served steps of the task is one of the module with its worker, with steps for others
in between. -/
theorem Attended.exists_run (h : Attended p s) {bs : List TaskAction}
    (hserved : ∀ b ∈ bs, Served chain env head b)
    (hrun : (taskMachine m).run (s.1.heap p) bs = some (next, out))
    (hout : unsubscribes out = false) :
  ∃ as t e, (∀ a ∈ as, WhileServed chain env head p a) ∧ as.filterMap (actionOf p) = bs
    ∧ (workerMachine m).run s as = some (t, e) ∧ Attended p t
  := by
  induction bs generalizing s out with
  | nil => exact ⟨[], s, [], List.forall_mem_nil _, rfl, rfl, h⟩
  | cons b bs ih =>
      obtain ⟨task, e₁, e₂, hstep, hrest, rfl⟩ := ((taskMachine m).run_cons).mp hrun
      rw [unsubscribes_append, Bool.or_eq_false_iff] at hout
      obtain ⟨hb, hbs⟩ := List.forall_mem_cons.mp hserved
      obtain ⟨as, t, e, has, hsame, htaken, hattended⟩ := h.exists_step env hstep
      rw [← Machine.run_singleton] at hstep
      obtain ⟨hheap, _⟩ := run_task_eq htaken hsame hstep
      rw [← hheap] at hrest
      obtain ⟨as', u, e', has', hsame', hlater, hlast⟩ := ih (hattended hout.1) hbs hrest hout.2
      refine ⟨as ++ as', u, e ++ e', ?_, ?_, ?_, hlast⟩
      · apply List.forall_mem_append.mpr ⟨_, has'⟩
        intro a ha
        rcases has a ha with helsewhere | rfl
        · exact .elsewhere helsewhere
        · exact .task hb
      · rw [List.filterMap_append, hsame, hsame']
        rfl
      · apply ((workerMachine m).run_append).mpr ⟨t, e, e', htaken, hlater, rfl⟩

/-- What is known of a task in a run of the module with its worker in which it is visited only after
its queries are answered, its session is connected and the ledger answers with the blocks of a
chain. -/
theorem finishing_run {subscriptions : Nat → Subscription}
    (hfrom : 0 < (subscriptions p).params.fromBlock) (hto : 0 < (subscriptions p).params.toBlock)
    {before : List EventSubAction} {o : List (Nat × TaskOutput)}
    (hanswered : (workerMachine m).Along
      (fun _ s a => ∀ b ∈ actionOf p a, Answered (s.1.heap p) b) [] (startWorker subscriptions)
      before)
    (htells : ∀ a ∈ before, ∀ b ∈ actionOf p a, TellsChain chain (subscriptions p).session b)
    (hrun : (workerMachine m).run (startWorker subscriptions) before = some (s, o)) :
  Finishing (subscriptions p) chain (o.filterMap (outputOf p)) (s.1.heap p)
  := by
  apply ((hanswered.and_forall htells).invariant
    (I := fun o s => Finishing (subscriptions p) chain ((workerProjection m p).outputs o)
      (s.1.heap p)) _ (Finishing.start hto)).run hrun
  intro o s a t e h hC hstep
  apply (workerProjection m p).keep (C := fun _ task b =>
    Answered task b ∧ TellsChain chain (subscriptions p).session b) _ h _ hstep
  · intro o task b next out h hC hstep
    apply h.step hfrom hC.1 hC.2 hstep
  · intro b hb
    exact ⟨hC.1 b hb, hC.2 b hb⟩

/-- A task in the table whose cancellation is not queued is attended, and has not cancelled
itself. -/
theorem attended_run {subscriptions : Nat → Subscription} {before : List EventSubAction}
    {o : List (Nat × TaskOutput)}
    (hrun : (workerMachine m).run (startWorker subscriptions) before = some (s, o))
    (htable : s.1.InTable p) (hqueued : (s.1.heap p).id ∉ s.1.cancelTasks) :
  Attended p s ∧ unsubscribes (o.filterMap (outputOf p)) = false
  := by
  obtain ⟨hplaced, hvisits⟩ := Machine.run_invariant (o := [])
    (I := fun o s => Placed p (o.filterMap (outputOf p)) s ∧ VisitsTable s)
    (fun hI hstep => ⟨hI.1.step hstep, visitsTable_step hI.2 hstep⟩)
    ⟨placed_start subscriptions p, visitsTable_start subscriptions⟩ hrun
  exact ⟨⟨hplaced.consistent, htable, hqueued, hvisits⟩,
    hplaced.unsubscribes_eq_false htable hqueued⟩

/-- A task that is attended can be served until it has sent `PUSH_COMPLETED`. -/
theorem Attended.finishes (h : Attended p s)
    (hfinishing : Finishing sub chain o (s.1.heap p)) (hkept : unsubscribes o = false)
    (hm : 1 ≤ m)
    (hrange : 0 < sub.params.fromBlock ∧ sub.params.fromBlock ≤ sub.params.toBlock)
    (hserving : Serving sub env head) :
  ∃ (after : List EventSubAction) (t : EventSub × WorkerPhase) (e : List (Nat × TaskOutput)),
    (∀ a ∈ after, WhileServed chain env head p a)
    ∧ (after.filterMap (actionOf p)).length ≤ (s.1.heap p).stepsLeft + 1
    ∧ (workerMachine m).run s after = some (t, e)
    ∧ Delivering sub chain (o ++ e.filterMap (outputOf p)) (t.1.heap p)
    ∧ sent (o ++ e.filterMap (outputOf p)) = true
  := by
  obtain ⟨bs, next, out, hlength, hserved, htask, ⟨hcomplete, hout⟩, hcompleted⟩ :=
    hfinishing.exists_run hkept hm hrange hserving
  rw [unsubscribes_append, Bool.or_eq_false_iff] at hout
  obtain ⟨as, t, e, has, hsame, hrun, hnext⟩ := h.exists_run hserved htask hout.2
  obtain ⟨hheap, houtputs⟩ := run_task_eq hrun hsame htask
  -- the visit that finds the task complete
  obtain ⟨last, hvisit, hdelivering, hsent⟩ := hcomplete.completes hrange.1 hserving hcompleted
  have hlastVisit : (taskMachine m).step (t.1.heap p) (.visit env) = some (next, last) := by
    rw [hheap]
    apply hvisit
  obtain ⟨as', u, e', has', hsame', hend, _⟩ := hnext.exists_step env hlastVisit
  rw [← Machine.run_singleton] at hlastVisit
  obtain ⟨hheap', houtputs'⟩ := run_task_eq hend hsame' hlastVisit
  have hwhole : o ++ (e ++ e').filterMap (outputOf p) = o ++ out ++ last := by
    rw [List.filterMap_append, houtputs, houtputs', List.append_assoc]
  refine ⟨as ++ as', u, e ++ e', ?_, ?_, ?_, ?_, ?_⟩
  · apply List.forall_mem_append.mpr ⟨has, _⟩
    intro a ha
    rcases has' a ha with helsewhere | rfl
    · exact .elsewhere helsewhere
    · exact .task .visit
  · rw [List.filterMap_append, hsame, hsame', List.length_append, List.length_singleton]
    apply Nat.succ_le_succ hlength
  · apply ((workerMachine m).run_append).mpr ⟨t, e, e', hrun, hend, rfl⟩
  · rw [hwhole, hheap']
    apply hdelivering
  · rw [hwhole]
    apply hsent

/-- Whatever has happened to a subscription with a first and a last block in a run of the module
with its worker, in which its task is visited only after its queries are answered, its session is
connected and the ledger answers with the blocks of a chain: while its task is in the table and no
cancellation of its id is queued, the worker can go on, with at most three steps of the task for
each block of the range and one more, to `PUSH_COMPLETED`, and then exactly the messages for the
blocks of the range have been pushed, in order. -/
theorem range_finishes {subscriptions : Nat → Subscription} (hm : 1 ≤ m)
    (hrange : 0 < (subscriptions p).params.fromBlock
      ∧ (subscriptions p).params.fromBlock ≤ (subscriptions p).params.toBlock)
    {before : List EventSubAction} {o : List (Nat × TaskOutput)}
    (hanswered : (workerMachine m).Along
      (fun _ s a => ∀ b ∈ actionOf p a, Answered (s.1.heap p) b) [] (startWorker subscriptions)
      before)
    (htells : ∀ a ∈ before, ∀ b ∈ actionOf p a, TellsChain chain (subscriptions p).session b)
    (hrun : (workerMachine m).run (startWorker subscriptions) before = some (s, o))
    (htable : s.1.InTable p) (hqueued : (s.1.heap p).id ∉ s.1.cancelTasks)
    (hserving : Serving (subscriptions p) env head) :
  ∃ (after : List EventSubAction) (t : EventSub × WorkerPhase) (e : List (Nat × TaskOutput)),
    (∀ a ∈ after, WhileServed chain env head p a)
    ∧ (after.filterMap (actionOf p)).length ≤ 3 * ((subscriptions p).params.toBlock + 1
      - (subscriptions p).params.fromBlock).toNat + 1
    ∧ (workerMachine m).run s after = some (t, e)
    ∧ sent ((o ++ e).filterMap (outputOf p)) = true
    ∧ pushes ((o ++ e).filterMap (outputOf p))
      = (blocksFrom (subscriptions p).params.fromBlock
          ((subscriptions p).params.toBlock + 1)).flatMap
        (fun b => messagesFor (subscriptions p) (chain b))
  := by
  have hfinishing := finishing_run hrange.1 (hrange.1.trans_le hrange.2) hanswered htells hrun
  obtain ⟨hattended, hkept⟩ := attended_run hrun htable hqueued
  have hparams : (s.1.heap p).params = (subscriptions p).params :=
    congrArg Subscription.params hfinishing.delivering.subscription
  obtain ⟨after, t, e, hserved, hlength, hlater, hdelivering, hsent⟩ :=
    hattended.finishes hfinishing hkept hm hrange hserving
  obtain ⟨reached, _, _, hpushes, hended⟩ := hdelivering.messages hrange
  refine ⟨after, t, e, hserved, ?_, hlater, ?_, ?_⟩
  · have hbound := (s.1.heap p).stepsLeft_le
    rw [hparams] at hbound
    omega
  · rw [List.filterMap_append]
    apply hsent
  · rw [List.filterMap_append, ← hended hsent]
    apply hpushes

/-- Two subscriptions, for the block 5. -/
def twoSubscriptions (p : Nat) : Subscription :=
  { blockFive with id := if p = 0 then "1" else "2" }

/-- The fetch of block 5 fails for the first of two tasks, while the second is still to be
visited. -/
def fetchFailed : List EventSubAction :=
  let env : Env := ⟨fun _ => true, fun _ => true⟩
  [.subscribe, .subscribe, .executeCancelTasks, .executeAddTasks, .task 0 (.visit env),
    .task 0 (.blockNumber env none 7),
    .task 0 (.blockData env ⟨5, 5⟩ (some ⟨-1, "timeout"⟩) ⟨none, [], []⟩)]

/-- The range of the first of the two tasks can be finished. -/
theorem range_finishes_fetchFailed :
  ∃ s o, (workerMachine 10).run (startWorker twoSubscriptions) fetchFailed = some (s, o)
    ∧ ∃ (after : List EventSubAction) (t : EventSub × WorkerPhase) (e : List (Nat × TaskOutput)),
      (∀ a ∈ after, WhileServed (fun _ => oneLogBlock)
        ⟨fun _ => true, fun _ => true⟩ 8 0 a)
      ∧ (after.filterMap (actionOf 0)).length ≤ 4
      ∧ (workerMachine 10).run s after = some (t, e)
      ∧ sent ((o ++ e).filterMap (outputOf 0)) = true
      ∧ pushes ((o ++ e).filterMap (outputOf 0))
        = (blocksFrom 5 6).flatMap
          (fun _ => messagesFor (twoSubscriptions 0) oneLogBlock)
  := by
  have hholds : ∀ r ∈ (workerMachine 10).run (startWorker twoSubscriptions) fetchFailed,
      r.1.1.InTable 0 ∧ (r.1.1.heap 0).id ∉ r.1.1.cancelTasks := by
    decide
  have hsome : ((workerMachine 10).run (startWorker twoSubscriptions) fetchFailed).isSome := by
    decide
  obtain ⟨⟨s, o⟩, hrun⟩ := Option.isSome_iff_exists.mp hsome
  obtain ⟨htable, hqueued⟩ := hholds _ hrun
  use s, o, hrun
  have htells : ∀ a ∈ fetchFailed, ∀ b ∈ actionOf 0 a,
      TellsChain (fun _ => oneLogBlock) (twoSubscriptions 0).session b := by
    simp [fetchFailed, actionOf, TellsChain, Error.failed, CommonError.SUCCESS]
  have hanswered : (workerMachine 10).Along
      (fun _ s a => ∀ b ∈ actionOf 0 a, Answered (s.1.heap 0) b) [] (startWorker twoSubscriptions)
      fetchFailed := by
    decide
  have hrange : 0 < (twoSubscriptions 0).params.fromBlock
      ∧ (twoSubscriptions 0).params.fromBlock ≤ (twoSubscriptions 0).params.toBlock := by
    decide
  have hserving : Serving (twoSubscriptions 0) ⟨fun _ => true, fun _ => true⟩ 8 :=
    ⟨rfl, rfl, by decide⟩
  exact range_finishes (by decide) hrange hanswered htells hrun htable hqueued hserving

end EventSub
