import BcosRpc.Event.Task
import BcosRpc.Machine.Basic

/-!
# The execution of a task

A `LiveTask` is a task with the requests to the ledger that are not answered yet. The worker
visits it; the answers of the ledger run the callbacks. `taskMachine` has these steps; each
callback body is one of them.
-/

/-- A fetch of a block that is not answered yet. The batch it belongs to ends with
`endBlockNumber`. -/
structure BlockFetch where
  blockNumber : Int
  endBlockNumber : Int
  deriving DecidableEq, Repr

/-- A task with the number of its unanswered queries of the block number and its unanswered
fetches. -/
structure LiveTask extends EventSubTask where
  blockNumberQueries : Nat := 0
  blockFetches : List BlockFetch := []

/-- What a step of a task does to its surroundings. `processed` and `failed` tell the end of a
fetch, the others are calls of the ledger, messages to the session and cancellations. -/
inductive TaskOutput where
  | asyncGetBlockNumber
  | asyncGetBlockDataByNumber (blockNumber : Int)
  | failed (blockNumber : Int)
  | processed (blockNumber : Int)
  | pushEvents (session : WsSession) (id : String) (result : Json)
  | pushCompleted (session : WsSession) (id : String)
  | unsubscribeEventSub (id : String)

/-- What a step reads of the sessions and of the group manager. -/
structure Env where
  isConnected : WsSession → Bool
  hasNodeService : String → Bool

namespace LiveTask

/-- The task of a subscription before its first visit. -/
def ofSubscription (sub : Subscription) : LiveTask := { toSubscription := sub }

/-! ### Updates -/

def cursor (task : LiveTask) : Int := task.state.currentBlockNumber

def setWork (task : LiveTask) (work : Bool) : LiveTask :=
  { task with toEventSubTask := task.toEventSubTask.setWork work }

def setCurrentBlockNumber (task : LiveTask) (n : Int) : LiveTask :=
  { task with toEventSubTask := task.toEventSubTask.setCurrentBlockNumber n }

def addQuery (task : LiveTask) : LiveTask :=
  { task with blockNumberQueries := task.blockNumberQueries + 1 }

def removeQuery (task : LiveTask) : LiveTask :=
  { task with blockNumberQueries := task.blockNumberQueries - 1 }

def addFetch (task : LiveTask) (fetch : BlockFetch) : LiveTask :=
  { task with blockFetches := task.blockFetches ++ [fetch] }

def removeFetch (task : LiveTask) (fetch : BlockFetch) : LiveTask :=
  { task with blockFetches := task.blockFetches.erase fetch }

/-- The cursor only grows. -/
@[simp]
theorem cursor_setCurrentBlockNumber (task : LiveTask) (n : Int) :
  (task.setCurrentBlockNumber n).cursor = max task.cursor n
  := EventSubTaskState.currentBlockNumber_set task.state n

@[simp]
theorem cursor_removeFetch (task : LiveTask) (fetch : BlockFetch) :
  (task.removeFetch fetch).cursor = task.cursor
  := rfl

@[simp]
theorem blockFetches_setWork (task : LiveTask) (work : Bool) :
  (task.setWork work).blockFetches = task.blockFetches
  := rfl

@[simp]
theorem blockFetches_setCurrentBlockNumber (task : LiveTask) (n : Int) :
  (task.setCurrentBlockNumber n).blockFetches = task.blockFetches
  := rfl

@[simp]
theorem blockFetches_addQuery (task : LiveTask) :
  task.addQuery.blockFetches = task.blockFetches
  := rfl

@[simp]
theorem blockFetches_removeQuery (task : LiveTask) :
  task.removeQuery.blockFetches = task.blockFetches
  := rfl

@[simp]
theorem blockFetches_addFetch (task : LiveTask) (fetch : BlockFetch) :
  (task.addFetch fetch).blockFetches = task.blockFetches ++ [fetch]
  := rfl

@[simp]
theorem blockFetches_removeFetch (task : LiveTask) (fetch : BlockFetch) :
  (task.removeFetch fetch).blockFetches = task.blockFetches.erase fetch
  := rfl

/-- The only fetch in flight, once it is answered, leaves none. -/
theorem blockFetches_removeFetch_of_eq {task : LiveTask} {fetch : BlockFetch}
    (h : task.blockFetches = [fetch]) :
  (task.removeFetch fetch).blockFetches = []
  := by
  rw [blockFetches_removeFetch, h, List.erase_cons_head]

@[simp]
theorem blockNumberQueries_addQuery (task : LiveTask) :
  task.addQuery.blockNumberQueries = task.blockNumberQueries + 1
  := rfl

@[simp]
theorem blockNumberQueries_removeQuery (task : LiveTask) :
  task.removeQuery.blockNumberQueries = task.blockNumberQueries - 1
  := rfl

@[simp]
theorem blockNumberQueries_addFetch (task : LiveTask) (fetch : BlockFetch) :
  (task.addFetch fetch).blockNumberQueries = task.blockNumberQueries
  := rfl

/-! ### Messages to the session -/

/-- Send events, or the message that the task is complete, to the session of a task. The
result is false when the session is not connected. -/
def sendEvents (env : Env) (session : WsSession) (complete : Bool) (id : String)
    (result : Json) : Bool × List TaskOutput :=
  if !env.isConnected session then (false, [])
  else if complete then (true, [.pushCompleted session id])
  else if result.size = 0 then (true, [])
  else (true, [.pushEvents session id result])

/-- The callback of a task. -/
def callback (env : Env) (task : LiveTask) (complete : Bool) (result : Json) :
    Bool × List TaskOutput :=
  sendEvents env task.session complete task.id result

/-- The callback with no events tells whether the session is connected. -/
def checkConnAvailable (env : Env) (task : LiveTask) : Bool :=
  (task.callback env false (.array [])).1

def onTaskComplete (env : Env) (task : LiveTask) : List TaskOutput :=
  (task.callback env true (.array [])).2

/-! ### Batches -/

/-- Ask the ledger for a block, or cancel the task when its group has no node service. -/
def processNextBlock (env : Env) (blockNumber endBlockNumber : Int) (task : LiveTask) :
    LiveTask × List TaskOutput :=
  if !env.hasNodeService task.group then (task, [.unsubscribeEventSub task.id])
  else
    (task.addFetch ⟨blockNumber, endBlockNumber⟩, [.asyncGetBlockDataByNumber blockNumber])

/-- Continue a batch with a block, or end it. -/
def process (env : Env) (blockNumber endBlockNumber : Int) (task : LiveTask) :
    LiveTask × List TaskOutput :=
  if blockNumber > endBlockNumber then (task.setWork false, [])
  else task.processNextBlock env blockNumber endBlockNumber

/-- The messages for a block: its events, when there are any. -/
def pushed (env : Env) (block : Block) (task : LiveTask) : List TaskOutput :=
  let found := EventSubMatcher.matchesBlock task.params block []
  if found.1 != 0 then (task.callback env false (.array found.2)).2 else []

theorem pushed_cases (env : Env) (block : Block) (task : LiveTask) :
  task.pushed env block = []
    ∨ ∃ jResp, task.pushed env block = [.pushEvents task.session task.id jResp]
  := by
  simp only [pushed, callback, sendEvents, Bool.false_eq_true, if_false]
  split
  · split
    · apply Or.inl rfl
    · split
      · apply Or.inl rfl
      · apply Or.inr ⟨_, rfl⟩
  · apply Or.inl rfl

/-- The callback of `asyncGetBlockDataByNumber`. -/
def onBlockData (env : Env) (fetch : BlockFetch) (error : Option Error) (block : Block)
    (task : LiveTask) : LiveTask × List TaskOutput :=
  if Error.failed error then (task.setWork false, [.failed fetch.blockNumber])
  else
    let (next, out) := (task.setCurrentBlockNumber (fetch.blockNumber + 1)).process env
      (fetch.blockNumber + 1) fetch.endBlockNumber
    (next, task.pushed env block ++ .processed fetch.blockNumber :: out)

/-- The first block of the batch that a block number opens. -/
def startBlock (task : LiveTask) (blockNumber : Int) : Int :=
  if task.cursor < 0 then
    if task.params.fromBlock > 0 then task.params.fromBlock else blockNumber
  else task.cursor

/-- The last block of the batch that a block number opens. -/
def endBlock (maxBlockProcessPerLoop : Int) (task : LiveTask) (blockNumber : Int) : Int :=
  let toBlockNumber := task.params.toBlock
  let lastBlock :=
    if toBlockNumber > 0 && toBlockNumber < blockNumber then toBlockNumber else blockNumber
  let blockCanProcess := lastBlock - task.startBlock blockNumber + 1
  task.startBlock blockNumber
    + (if blockCanProcess > maxBlockProcessPerLoop then maxBlockProcessPerLoop
        else blockCanProcess) - 1

/-- Open a batch, unless its first block is still to be sealed. -/
def executeBatch (maxBlockProcessPerLoop : Int) (env : Env) (blockNumber : Int)
    (task : LiveTask) : LiveTask × List TaskOutput :=
  if blockNumber < task.startBlock blockNumber then (task, [])
  else
    (task.setWork true).process env (task.startBlock blockNumber)
      (task.endBlock maxBlockProcessPerLoop blockNumber)

/-- A batch starts at the cursor or after it, and at a block a chain can have. -/
theorem startBlock_bounds (task : LiveTask) (head : Nat) :
  0 ≤ task.startBlock head ∧ task.cursor ≤ task.startBlock head
  := by
  rw [startBlock]
  split
  · split <;> omega
  · omega

/-- A batch ends at the head of the chain or before it. -/
theorem endBlock_le_head (maxBlockProcessPerLoop : Int) (task : LiveTask) (head : Int) :
  task.endBlock maxBlockProcessPerLoop head ≤ head
  := by
  simp only [endBlock, Bool.and_eq_true, decide_eq_true_eq]
  generalize task.startBlock head = b
  split <;> split <;> omega

/-- A batch ends at the last block requested or before it. -/
theorem endBlock_le_toBlock (maxBlockProcessPerLoop : Int) {task : LiveTask}
    (h : 0 < task.params.toBlock) (head : Int) :
  task.endBlock maxBlockProcessPerLoop head ≤ task.params.toBlock
  := by
  simp only [endBlock, Bool.and_eq_true, decide_eq_true_eq]
  generalize task.startBlock head = b
  split <;> split <;> omega

/-- A batch whose first block is sealed is not empty exactly when batches are not, and the last
block requested is not before the first block. -/
theorem startBlock_le_endBlock_iff {maxBlockProcessPerLoop : Int} {task : LiveTask} {head : Int}
    (hstart : task.startBlock head ≤ head) :
  task.startBlock head ≤ task.endBlock maxBlockProcessPerLoop head
    ↔ 0 < maxBlockProcessPerLoop
      ∧ (0 < task.params.toBlock → task.startBlock head ≤ task.params.toBlock)
  := by
  simp only [endBlock, Bool.and_eq_true, decide_eq_true_eq]
  generalize task.startBlock head = b at hstart ⊢
  split <;> split <;> omega

/-- A task with a last block that is not complete has blocks left to process. -/
theorem cursor_le_of_not_completed {task : LiveTask} (h : task.isCompleted = false)
    (hto : 0 ≤ task.params.toBlock) :
  task.cursor ≤ task.params.toBlock
  := by
  rw [EventSubTask.isCompleted, if_neg (by omega), decide_eq_false_iff_not] at h
  apply Int.not_lt.mp h

/-! ### Visits -/

/-- The visit of the worker. -/
def executeEventSubTask (env : Env) (task : LiveTask) : LiveTask × List TaskOutput :=
  if !task.checkConnAvailable env then (task, [.unsubscribeEventSub task.id])
  else if task.isCompleted then
    (task, .unsubscribeEventSub task.id :: task.onTaskComplete env)
  else if task.work then (task, [])
  else if !env.hasNodeService task.group then (task, [.unsubscribeEventSub task.id])
  else (task.addQuery, [.asyncGetBlockNumber])

/-- The callback of `asyncGetBlockNumber`. -/
def onBlockNumber (maxBlockProcessPerLoop : Int) (env : Env) (error : Option Error)
    (blockNumber : Int) (task : LiveTask) : LiveTask × List TaskOutput :=
  if Error.failed error then (task, [])
  else task.executeBatch maxBlockProcessPerLoop env blockNumber

end LiveTask

/-- The steps of a task: a visit, an answer with a block number, which is the height of a
chain, and an answer to a fetch. -/
inductive TaskAction where
  | visit (env : Env)
  | blockNumber (env : Env) (error : Option Error) (head : Nat)
  | blockData (env : Env) (fetch : BlockFetch) (error : Option Error) (block : Block)

/-- A task as a machine. An answer needs a query or a fetch that it answers. -/
def taskMachine (maxBlockProcessPerLoop : Int) : Machine LiveTask TaskAction TaskOutput where
  step
    | task, .visit env => some (task.executeEventSubTask env)
    | task, .blockNumber env error head =>
        if 0 < task.blockNumberQueries then
          some (task.removeQuery.onBlockNumber maxBlockProcessPerLoop env error head)
        else none
    | task, .blockData env fetch error block =>
        if fetch ∈ task.blockFetches then
          some ((task.removeFetch fetch).onBlockData env fetch error block)
        else none

/-! ### The cases of a step -/

section

variable {m : Int} {env : Env} {task : LiveTask}

/-- The continuations of a batch with a block. -/
inductive Continues (env : Env) (blockNumber endBlockNumber : Int) (task : LiveTask) :
    LiveTask × List TaskOutput → Prop where
  | ended (h : endBlockNumber < blockNumber) :
      Continues env blockNumber endBlockNumber task (task.setWork false, [])
  | noNodeService (h : blockNumber ≤ endBlockNumber)
      (hservice : env.hasNodeService task.group = false) :
      Continues env blockNumber endBlockNumber task (task, [.unsubscribeEventSub task.id])
  | fetch (h : blockNumber ≤ endBlockNumber) (hservice : env.hasNodeService task.group = true) :
      Continues env blockNumber endBlockNumber task
        (task.addFetch ⟨blockNumber, endBlockNumber⟩, [.asyncGetBlockDataByNumber blockNumber])

theorem LiveTask.process_continues (env : Env) (b e : Int) (task : LiveTask) :
  Continues env b e task (task.process env b e)
  := by
  rw [process]
  split
  · rename_i h
    apply Continues.ended h
  · rename_i h
    rw [processNextBlock]
    cases hs : env.hasNodeService task.group with
    | false => exact Continues.noNodeService (Int.not_lt.mp h) hs
    | true => exact Continues.fetch (Int.not_lt.mp h) hs

/-- The steps of a task. -/
inductive TaskStep (m : Int) (task : LiveTask) :
    TaskAction → LiveTask × List TaskOutput → Prop where
  | disconnected {env : Env} (hconn : env.isConnected task.session = false) :
      TaskStep m task (.visit env) (task, [.unsubscribeEventSub task.id])
  | completed {env : Env} (hconn : env.isConnected task.session = true)
      (hcompleted : task.isCompleted = true) :
      TaskStep m task (.visit env)
        (task, [.unsubscribeEventSub task.id, .pushCompleted task.session task.id])
  | working {env : Env} (hcompleted : task.isCompleted = false) (hwork : task.work = true) :
      TaskStep m task (.visit env) (task, [])
  | noNodeService {env : Env} (hcompleted : task.isCompleted = false)
      (hwork : task.work = false) (hservice : env.hasNodeService task.group = false) :
      TaskStep m task (.visit env) (task, [.unsubscribeEventSub task.id])
  | asked {env : Env} (hcompleted : task.isCompleted = false) (hwork : task.work = false)
      (hservice : env.hasNodeService task.group = true) :
      TaskStep m task (.visit env) (task.addQuery, [.asyncGetBlockNumber])
  | queryFailed {env : Env} {error : Option Error} {head : Nat}
      (hquery : 0 < task.blockNumberQueries) (herror : Error.failed error = true) :
      TaskStep m task (.blockNumber env error head) (task.removeQuery, [])
  | waiting {env : Env} {error : Option Error} {head : Nat}
      (hquery : 0 < task.blockNumberQueries) (herror : Error.failed error = false)
      (hstart : head < task.startBlock head) :
      TaskStep m task (.blockNumber env error head) (task.removeQuery, [])
  | opened {env : Env} {error : Option Error} {head : Nat} {r : LiveTask × List TaskOutput}
      (hquery : 0 < task.blockNumberQueries) (herror : Error.failed error = false)
      (hstart : task.startBlock head ≤ head)
      (hr : Continues env (task.startBlock head) (task.endBlock m head)
        (task.removeQuery.setWork true) r) :
      TaskStep m task (.blockNumber env error head) r
  | fetchFailed {env : Env} {fetch : BlockFetch} {error : Option Error} {block : Block}
      (hfetch : fetch ∈ task.blockFetches) (herror : Error.failed error = true) :
      TaskStep m task (.blockData env fetch error block)
        ((task.removeFetch fetch).setWork false, [.failed fetch.blockNumber])
  | fetched {env : Env} {fetch : BlockFetch} {error : Option Error} {block : Block}
      {next : LiveTask} {out : List TaskOutput}
      (hfetch : fetch ∈ task.blockFetches) (herror : Error.failed error = false)
      (hr : Continues env (fetch.blockNumber + 1) fetch.endBlockNumber
        ((task.removeFetch fetch).setCurrentBlockNumber (fetch.blockNumber + 1)) (next, out)) :
      TaskStep m task (.blockData env fetch error block)
        (next, task.pushed env block ++ .processed fetch.blockNumber :: out)

theorem LiveTask.visit_step (m : Int) (env : Env) (task : LiveTask) :
  TaskStep m task (.visit env) (task.executeEventSubTask env)
  := by
  rw [executeEventSubTask, checkConnAvailable, onTaskComplete, callback, callback]
  cases hconn : env.isConnected task.session with
  | false =>
      simp only [sendEvents, hconn]
      apply TaskStep.disconnected hconn
  | true =>
      simp only [sendEvents, hconn]
      cases hcompleted : task.isCompleted with
      | true => exact TaskStep.completed hconn hcompleted
      | false =>
          cases hwork : task.work with
          | true => exact TaskStep.working hcompleted hwork
          | false =>
              cases hservice : env.hasNodeService task.group with
              | false => exact TaskStep.noNodeService hcompleted hwork hservice
              | true => exact TaskStep.asked hcompleted hwork hservice

theorem LiveTask.blockNumber_step (env : Env) (error : Option Error) (head : Nat)
    (hquery : 0 < task.blockNumberQueries) :
  TaskStep m task (.blockNumber env error head)
    (task.removeQuery.onBlockNumber m env error head)
  := by
  rw [onBlockNumber]
  cases herror : Error.failed error with
  | true => exact TaskStep.queryFailed hquery herror
  | false =>
      rw [if_neg (by decide), executeBatch]
      split
      · rename_i hstart
        apply TaskStep.waiting hquery herror hstart
      · rename_i hstart
        apply TaskStep.opened hquery herror (Int.not_lt.mp hstart) (process_continues _ _ _ _)

theorem LiveTask.blockData_step (env : Env) {fetch : BlockFetch} (error : Option Error)
    (block : Block) (hfetch : fetch ∈ task.blockFetches) :
  TaskStep m task (.blockData env fetch error block)
    ((task.removeFetch fetch).onBlockData env fetch error block)
  := by
  rw [onBlockData]
  cases herror : Error.failed error with
  | true => exact TaskStep.fetchFailed hfetch herror
  | false => exact TaskStep.fetched hfetch herror (process_continues _ _ _ _)

/-- Every step of the machine is one of the steps of a task. -/
theorem taskMachine_step {a : TaskAction} {r : LiveTask × List TaskOutput}
    (h : (taskMachine m).step task a = some r) :
  TaskStep m task a r
  := by
  cases a with
  | visit env =>
      obtain rfl := Option.some.inj h
      apply LiveTask.visit_step m env task
  | blockNumber env error head =>
      obtain ⟨hquery, hr⟩ := Option.ite_none_right_eq_some.mp h
      obtain rfl := Option.some.inj hr
      apply LiveTask.blockNumber_step env error head hquery
  | blockData env fetch error block =>
      obtain ⟨hfetch, hr⟩ := Option.ite_none_right_eq_some.mp h
      obtain rfl := Option.some.inj hr
      apply LiveTask.blockData_step env error block hfetch

end
