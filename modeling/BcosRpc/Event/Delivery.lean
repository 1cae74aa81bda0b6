import BcosRpc.Event.Cleanup
import BcosRpc.Event.Final
import BcosRpc.Event.Matching
import BcosRpc.Event.Sessions

/-!
# The events of a range

A subscription with a first and a last block is to get the events of the blocks between them, one
message for each block that has some, in the order of the chain, and then `PUSH_COMPLETED`.
`EventSub.events_delivered` says so of every run, whatever fails and is made again on the way, for
a task that is visited only after its queries of the block number are answered.
-/

/-! ### Messages -/

/-- The message with the events of a block, as `sendEvents` writes it. -/
def eventsToJson (id : String) (result : Json) : Json :=
  (EventSubResponse.toJson ⟨id, EP_STATUS_CODE.SUCCESS⟩).set "result" result

/-- The client decodes a message with events as a response with `SUCCESS`, and finds the events
in it. -/
theorem fromJson_eventsToJson {parse : String → Option Json} {write : Json → String} {id : String}
    {result : Json} (hread : parse (write (eventsToJson id result)) = some (eventsToJson id result))
    (self : EventSubResponse.Object) :
  self.fromJson parse (write (eventsToJson id result))
      = (⟨⟨id, EP_STATUS_CODE.SUCCESS⟩, eventsToJson id result⟩, true)
    ∧ (eventsToJson id result).find "result" = some result
  := by
  have hmembers : EventSubResponse.read (eventsToJson id result)
      = .ok ⟨id, EP_STATUS_CODE.SUCCESS⟩ := by
    apply (EventSubResponse.read_eq_ok_iff _ _).mpr
    constructor
    · exact ⟨.string id, by simp [eventsToJson, EventSubResponse.toJson], rfl⟩
    · use .integer EP_STATUS_CODE.SUCCESS
      constructor
      · simp [eventsToJson, EventSubResponse.toJson]
      · rfl
  constructor
  · simp only [EventSubResponse.Object.fromJson, hread, hmembers]
  · simp [eventsToJson]

/-- The messages with events among the outputs. -/
def pushes (o : List TaskOutput) : List (WsSession × String × Json) :=
  o.filterMap fun
    | .pushEvents session id result => some (session, id, result)
    | _ => none

/-- The messages that a subscription is to get for a block: one with the events that match, or
none when their number is zero modulo `2 ^ 32`. -/
def messagesFor (sub : Subscription) (block : Block) : List (WsSession × String × Json) :=
  let (count, result) := EventSubMatcher.matchesBlock sub.params block []
  if count = 0 then [] else [(sub.session, sub.id, .array result)]

theorem pushes_append (o o' : List TaskOutput) :
  pushes (o ++ o') = pushes o ++ pushes o'
  := List.filterMap_append

/-- When the session is connected, the messages for a block are pushed. -/
theorem pushes_pushed {env : Env} {task : LiveTask}
    (hconn : env.isConnected task.session = true) (block : Block) :
  pushes (task.pushed env block) = messagesFor task.toSubscription block
  := by
  rw [LiveTask.pushed, messagesFor, EventSubMatcher.matchesBlock_eq, List.nil_append]
  dsimp only
  generalize EventSubMatcher.found task.params block (List.range block.transactionsSize) = found
  by_cases hcount : UInt32.ofNat found.length = 0
  · simp [hcount, pushes]
  · have hne : found ≠ [] := by
      rintro rfl
      apply hcount rfl
    simp [hcount, pushes, LiveTask.callback, LiveTask.sendEvents, hconn, hne]

theorem pushes_continues {env : Env} {b e : Int} {task next : LiveTask} {out : List TaskOutput}
    (h : Continues env b e task (next, out)) :
  pushes out = [] ∧ processedBlocks out = []
  := by
  cases h <;> exact ⟨rfl, rfl⟩

/-! ### The invariant -/

/-- An answer with a block brings the block of the chain, while the session is connected. -/
def TellsChain (chain : Int → Block) (session : WsSession) : TaskAction → Prop
  | .blockData env fetch error block => Error.failed error = false →
      block = chain fetch.blockNumber ∧ env.isConnected session = true
  | _ => True

/-- What is known of a task with a first and a last block: the messages it has pushed are those
for the blocks it has processed, and it sends `PUSH_COMPLETED` when it is complete. -/
structure Delivering (sub : Subscription) (chain : Int → Block) (o : List TaskOutput)
    (task : LiveTask) : Prop where
  subscription : task.toSubscription = sub
  tracked : Tracked o task
  retry : RetryInvariant o task.params.fromBlock task.cursor task.blockFetches
  pushed : pushes o = (processedBlocks o).flatMap fun b => messagesFor sub (chain b)
  ended : sent o = true → task.isCompleted = true

variable {m : Int} {sub : Subscription} {chain : Int → Block} {o out : List TaskOutput}
  {task next : LiveTask} {a : TaskAction}

theorem Delivering.start (hto : 0 < sub.params.toBlock) :
  Delivering sub chain [] (LiveTask.ofSubscription sub)
  := by
  constructor
  · rfl
  · apply Tracked.start hto
  · apply RetryInvariant.start
  · rfl
  · exact nofun

/-- A step pushes the messages for the block that it processes, if any. -/
theorem Delivering.pushes_step (h : Delivering sub chain o task)
    (htells : TellsChain chain sub.session a) (hstep : TaskStep m task a (next, out)) :
  pushes out = (processedBlocks out).flatMap fun b => messagesFor sub (chain b)
  := by
  cases hstep with
  | opened _ _ _ hr =>
      obtain ⟨hpushes, hprocessed⟩ := pushes_continues hr
      rw [hpushes, hprocessed]
      rfl
  | @fetched env fetch error block _ rest _ herror hr =>
      obtain ⟨hpushes, hprocessed⟩ := pushes_continues hr
      obtain ⟨hblock, hconn⟩ := htells herror
      have hsession : env.isConnected task.session = true := by
        rw [show task.session = sub.session from congrArg Subscription.session h.subscription]
        apply hconn
      rw [← List.singleton_append, pushes_append, pushes_append, pushes_pushed hsession,
        h.subscription, hblock, hpushes, processedBlocks_append, processedBlocks_append,
        processedBlocks_pushed, hprocessed]
      simp [pushes, processedBlocks]
  | _ => rfl

theorem Delivering.step (h : Delivering sub chain o task) (hfrom : 0 < sub.params.fromBlock)
    (hanswered : Answered task a) (htells : TellsChain chain sub.session a)
    (hstep : (taskMachine m).step task a = some (next, out)) :
  Delivering sub chain (o ++ out) next
  := by
  have htask := taskMachine_step hstep
  have hparams : task.params = sub.params := congrArg Subscription.params h.subscription
  -- the request names the first block, so that a batch never starts anywhere else
  have hagain : StartsAgain m o task a := by
    cases a with
    | blockNumber env error head =>
        intro _ _ hnone
        rw [hparams] at hnone
        omega
    | _ => trivial
  constructor
  · rw [htask.toSubscription_eq, h.subscription]
  · apply h.tracked.step hanswered hstep
  · apply h.retry.step h.tracked.one hagain hstep
  · rw [pushes_append, processedBlocks_append, List.flatMap_append, h.pushed,
      h.pushes_step htells htask]
  · rw [sent_append, Bool.or_eq_true]
    rintro (hbefore | hnow)
    · apply EventSub.isCompleted_step htask (h.ended hbefore)
    · rcases htask.sent_cases with hnot | ⟨_, hcompleted, rfl, _⟩
      · rw [hnot] at hnow
        cases hnow
      · apply hcompleted

/-- The messages pushed are those for the blocks from the first one up to some block of the range,
the last one when `PUSH_COMPLETED` has been sent. -/
theorem Delivering.messages (h : Delivering sub chain o task)
    (hrange : 0 < sub.params.fromBlock ∧ sub.params.fromBlock ≤ sub.params.toBlock) :
  ∃ reached, sub.params.fromBlock ≤ reached ∧ reached ≤ sub.params.toBlock + 1
    ∧ pushes o = (blocksFrom sub.params.fromBlock reached).flatMap
      (fun b => messagesFor sub (chain b))
    ∧ (sent o = true → reached = sub.params.toBlock + 1)
  := by
  obtain ⟨hfrom, hle⟩ := hrange
  have hparams : task.params = sub.params := congrArg Subscription.params h.subscription
  have hlast : task.cursor ≤ sub.params.toBlock + 1 := hparams ▸ h.tracked.cursor
  have hended : sent o = true → sub.params.toBlock < task.cursor := by
    intro hsent
    have hcompleted := h.ended hsent
    rw [EventSubTask.isCompleted, hparams, if_neg (by omega), decide_eq_true_eq] at hcompleted
    apply hcompleted
  rw [h.pushed]
  cases hasked : firstAsked o with
  | none =>
      obtain ⟨hunset, hprocessed, _, _⟩ := h.retry.untouched hasked
      refine ⟨sub.params.fromBlock, le_rfl, by omega, ?_, ?_⟩
      · rw [hprocessed, blocksFrom_of_le le_rfl]
      · intro hsent
        have hset := hended hsent
        omega
  | some first =>
      have hprogress := h.retry.progress first hasked
      obtain rfl : first = sub.params.fromBlock := by
        rw [hprogress.named (by rw [hparams]; exact hfrom), hparams]
      refine ⟨max sub.params.fromBlock task.cursor, by omega, by omega, ?_, ?_⟩
      · rw [hprogress.processed]
        rcases le_total task.cursor sub.params.fromBlock with hbelow | habove
        · rw [max_eq_left hbelow, blocksFrom_of_le hbelow, blocksFrom_of_le le_rfl]
        · rw [max_eq_right habove]
      · intro hsent
        have hset := hended hsent
        omega

/-! ### Runs of the module -/

namespace EventSub

/-- In a run of the module in which the worker visits a task only when its queries of the block
number are answered, its session stays connected and the ledger answers with the blocks of a
chain, the messages pushed for a subscription with a first and a last block are those for the
blocks from the first one up to some block of the range, in order; and once `PUSH_COMPLETED` has
been sent, they are those for the whole range. -/
theorem events_delivered {subscriptions : Nat → Subscription} {p : Nat} {chain : Int → Block}
    (hrange : 0 < (subscriptions p).params.fromBlock
      ∧ (subscriptions p).params.fromBlock ≤ (subscriptions p).params.toBlock)
    {as : List EventSubAction} {t : EventSub} {o : List (Nat × TaskOutput)}
    (hanswered : (eventSubMachine m).Along
      (fun _ s a => ∀ b ∈ actionOf p a, Answered (s.heap p) b) [] (start subscriptions) as)
    (htells : ∀ a ∈ as, ∀ b ∈ actionOf p a, TellsChain chain (subscriptions p).session b)
    (hrun : (eventSubMachine m).run (start subscriptions) as = some (t, o)) :
  ∃ reached, (subscriptions p).params.fromBlock ≤ reached
    ∧ reached ≤ (subscriptions p).params.toBlock + 1
    ∧ pushes (o.filterMap (outputOf p))
      = (blocksFrom (subscriptions p).params.fromBlock reached).flatMap
        (fun b => messagesFor (subscriptions p) (chain b))
    ∧ (sent (o.filterMap (outputOf p)) = true
      → reached = (subscriptions p).params.toBlock + 1)
  := by
  have hdelivering := ((hanswered.and_forall htells).invariant
    (I := fun o s => Delivering (subscriptions p) chain ((taskProjection m p).outputs o)
      (s.heap p)) (by
        intro o s a t e h hC hstep
        apply (taskProjection m p).keep (C := fun _ task b =>
          Answered task b ∧ TellsChain chain (subscriptions p).session b) _ h _ hstep
        · intro o task b next out h hC hstep
          apply h.step hrange.1 hC.1 hC.2 hstep
        · intro b hb
          exact ⟨hC.1 b hb, hC.2 b hb⟩)
    (Delivering.start (by omega))).run hrun
  apply hdelivering.messages hrange

/-- A block with one log entry. -/
def oneLogBlock : Block where
  blockHeader := none
  transactions := [default]
  receipts := [{ (default : TransactionReceipt) with logEntries := [⟨"ca5e", [], []⟩] }]

/-- The fetch of block 5, which has a log entry, fails and is made again. -/
def fetchAgain : List EventSubAction :=
  let env : Env := ⟨fun _ => true, fun _ => true⟩
  [.subscribe, .executeCancelTasks, .executeAddTasks, .task 0 (.visit env),
    .task 0 (.blockNumber env none 7),
    .task 0 (.blockData env ⟨5, 5⟩ (some ⟨-1, "timeout"⟩) ⟨none, [], []⟩),
    .task 0 (.visit env), .task 0 (.blockNumber env none 8),
    .task 0 (.blockData env ⟨5, 5⟩ none oneLogBlock), .task 0 (.visit env)]

theorem events_delivered_fetchAgain :
  ∃ t o, (eventSubMachine 10).run (start fun _ => blockFive) fetchAgain = some (t, o)
    ∧ ∃ reached, 5 ≤ reached ∧ reached ≤ 6
      ∧ pushes (o.filterMap (outputOf 0))
        = (blocksFrom 5 reached).flatMap
          (fun _ => messagesFor blockFive oneLogBlock)
      ∧ (sent (o.filterMap (outputOf 0)) = true → reached = 6)
  := by
  have hsome : ((eventSubMachine 10).run (start fun _ => blockFive) fetchAgain).isSome = true := by
    decide
  obtain ⟨⟨t, o⟩, hrun⟩ := Option.isSome_iff_exists.mp hsome
  use t, o, hrun
  have htells : ∀ a ∈ fetchAgain, ∀ b ∈ actionOf 0 a,
      TellsChain (fun _ => oneLogBlock) blockFive.session b := by
    simp [fetchAgain, actionOf, TellsChain, Error.failed, CommonError.SUCCESS]
  have hanswered : (eventSubMachine 10).Along
      (fun _ s a => ∀ b ∈ actionOf 0 a, Answered (s.heap 0) b) [] (start fun _ => blockFive)
      fetchAgain := by
    decide
  have hrange : 0 < blockFive.params.fromBlock
      ∧ blockFive.params.fromBlock ≤ blockFive.params.toBlock := by
    decide
  exact events_delivered hrange hanswered htells hrun

end EventSub
