import BcosRpc.Common.Json
import BcosRpc.Event.Range
import BcosRpc.Event.Retry

/-!
# One batch

`executeEventSubTask` computes the window of a batch from the cursor, the request and the head of
the chain, and walks through it block by block, in int64 arithmetic. `taskMachine64` refuses a
step that overflows, and is the task machine otherwise. `LiveTask.executeBatch64_exact` says which
blocks a batch asks for, in closed form, and what it leaves; no computation overflows as long as
the block after the head is an int64.
-/

/-! ### Checked arithmetic -/

/-- An int64 computation: its value, unless it overflows. -/
def checkedInt64 (n : Int) : Option Int := if IsInt64 n then some n else none

theorem checkedInt64_of_isInt64 {n : Int} (h : IsInt64 n) :
  checkedInt64 n = some n
  := if_pos h

theorem eq_of_checkedInt64 {n k : Int} (h : checkedInt64 n = some k) :
  n = k
  := by
  rw [checkedInt64, Option.ite_none_right_eq_some] at h
  apply Option.some.inj h.2

namespace LiveTask

/-- The last block of the batch that a block number opens. -/
def endBlock64 (maxBlockProcessPerLoop : Int) (task : LiveTask) (blockNumber : Int) :
    Option Int := do
  let toBlockNumber := task.params.toBlock
  let lastBlock :=
    if toBlockNumber > 0 && toBlockNumber < blockNumber then toBlockNumber else blockNumber
  let difference ← checkedInt64 (lastBlock - task.startBlock blockNumber)
  let blockCanProcess ← checkedInt64 (difference + 1)
  let sum ← checkedInt64 (task.startBlock blockNumber
    + if blockCanProcess > maxBlockProcessPerLoop then maxBlockProcessPerLoop
      else blockCanProcess)
  checkedInt64 (sum - 1)

/-- Open a batch, unless its first block is still to be sealed. -/
def executeBatch64 (maxBlockProcessPerLoop : Int) (env : Env) (blockNumber : Int)
    (task : LiveTask) : Option (LiveTask × List TaskOutput) :=
  if blockNumber < task.startBlock blockNumber then some (task, [])
  else
    (task.endBlock64 maxBlockProcessPerLoop blockNumber).map fun endBlockNumber =>
      (task.setWork true).process env (task.startBlock blockNumber) endBlockNumber

/-- The callback of `asyncGetBlockNumber`. -/
def onBlockNumber64 (maxBlockProcessPerLoop : Int) (env : Env) (error : Option Error)
    (blockNumber : Int) (task : LiveTask) : Option (LiveTask × List TaskOutput) :=
  if Error.failed error then some (task, [])
  else task.executeBatch64 maxBlockProcessPerLoop env blockNumber

/-- The callback of `asyncGetBlockDataByNumber`. -/
def onBlockData64 (env : Env) (fetch : BlockFetch) (error : Option Error) (block : Block)
    (task : LiveTask) : Option (LiveTask × List TaskOutput) :=
  if Error.failed error then some (task.setWork false, [.failed fetch.blockNumber])
  else
    (checkedInt64 (fetch.blockNumber + 1)).map fun nextBlock =>
      let (next, out) := (task.setCurrentBlockNumber nextBlock).process env nextBlock
        fetch.endBlockNumber
      (next, task.pushed env block ++ .processed fetch.blockNumber :: out)

end LiveTask

/-- A task as a machine in int64 arithmetic. A step that overflows is refused. -/
def taskMachine64 (maxBlockProcessPerLoop : Int) : Machine LiveTask TaskAction TaskOutput where
  step
    | task, .visit env => some (task.executeEventSubTask env)
    | task, .blockNumber env error head =>
        if 0 < task.blockNumberQueries then
          task.removeQuery.onBlockNumber64 maxBlockProcessPerLoop env error head
        else none
    | task, .blockData env fetch error block =>
        if fetch ∈ task.blockFetches then
          (task.removeFetch fetch).onBlockData64 env fetch error block
        else none

/-! ### Steps that do not overflow -/

section

variable {m : Int} {env : Env} {task : LiveTask}

theorem LiveTask.endBlock64_sound {blockNumber e : Int}
    (h : task.endBlock64 m blockNumber = some e) :
  task.endBlock m blockNumber = e
  := by
  simp only [endBlock64, bind, Option.bind_eq_some_iff] at h
  obtain ⟨difference, hdifference, blockCanProcess, hprocess, sum, hsum, hlast⟩ := h
  rw [← eq_of_checkedInt64 hlast, ← eq_of_checkedInt64 hsum, ← eq_of_checkedInt64 hprocess,
    ← eq_of_checkedInt64 hdifference, endBlock]

theorem LiveTask.executeBatch64_sound {blockNumber : Int} {r : LiveTask × List TaskOutput}
    (h : task.executeBatch64 m env blockNumber = some r) :
  task.executeBatch m env blockNumber = r
  := by
  rw [executeBatch64] at h
  rw [executeBatch]
  split at h
  · rename_i hwaits
    rw [if_pos hwaits]
    apply Option.some.inj h
  · rename_i hopens
    rw [if_neg hopens]
    obtain ⟨e, he, rfl⟩ := Option.map_eq_some_iff.mp h
    rw [endBlock64_sound he]

theorem LiveTask.onBlockData64_sound {fetch : BlockFetch} {error : Option Error} {block : Block}
    {r : LiveTask × List TaskOutput} (h : task.onBlockData64 env fetch error block = some r) :
  task.onBlockData env fetch error block = r
  := by
  rw [onBlockData64] at h
  rw [onBlockData]
  split at h
  · rename_i hfailed
    rw [if_pos hfailed]
    apply Option.some.inj h
  · rename_i hyields
    rw [if_neg hyields]
    obtain ⟨nextBlock, hnext, rfl⟩ := Option.map_eq_some_iff.mp h
    rw [eq_of_checkedInt64 hnext]

/-- A step that does not overflow is one of the task machine. -/
theorem taskMachine64_step {a : TaskAction} {r : LiveTask × List TaskOutput}
    (h : (taskMachine64 m).step task a = some r) :
  (taskMachine m).step task a = some r
  := by
  cases a with
  | visit env => exact h
  | blockNumber env error head =>
      obtain ⟨hquery, h⟩ := Option.ite_none_right_eq_some.mp h
      apply Option.ite_none_right_eq_some.mpr ⟨hquery, _⟩
      rw [LiveTask.onBlockNumber64] at h
      rw [LiveTask.onBlockNumber]
      split at h
      · rename_i hfailed
        rw [if_pos hfailed]
        apply h
      · rename_i hanswered
        rw [if_neg hanswered, LiveTask.executeBatch64_sound h]
  | blockData env fetch error block =>
      obtain ⟨hfetch, h⟩ := Option.ite_none_right_eq_some.mp h
      apply Option.ite_none_right_eq_some.mpr ⟨hfetch, _⟩
      rw [LiveTask.onBlockData64_sound h]

end

/-! ### The window -/

namespace LiveTask

/-- The last block of a batch: it has at most `m` blocks, and none behind the head or behind the
last block requested. -/
def windowEnd (m : Int) (task : LiveTask) (head : Int) : Int :=
  min (task.startBlock head + m - 1)
    (if 0 < task.params.toBlock then min head task.params.toBlock else head)

variable {m : Int} {task : LiveTask} {head : Int}

/-- The clamps of the source compute the window, and nothing overflows on the way. -/
theorem endBlock64_eq (hm : 1 ≤ m) (hmax : head + 1 ≤ maxInt64)
    (hstart : 0 ≤ task.startBlock head) (hle : task.startBlock head ≤ head) :
  task.endBlock64 m head = some (task.windowEnd m head)
  := by
  rw [maxInt64] at hmax
  have hlast : (if task.params.toBlock > 0 && task.params.toBlock < head
        then task.params.toBlock else head)
      = if 0 < task.params.toBlock then min head task.params.toBlock else head := by
    simp only [Bool.and_eq_true, decide_eq_true_eq]
    split <;> split <;> omega
  have hbounds : 0 ≤ (if 0 < task.params.toBlock then min head task.params.toBlock else head)
      ∧ (if 0 < task.params.toBlock then min head task.params.toBlock else head) ≤ head := by
    split <;> omega
  simp only [endBlock64, windowEnd, hlast]
  generalize (if 0 < task.params.toBlock then min head task.params.toBlock else head) = last
    at hbounds ⊢
  generalize task.startBlock head = s at hstart hle ⊢
  have hdifference : IsInt64 (last - s) := by
    simp only [IsInt64, minInt64, maxInt64]
    omega
  have hcan : IsInt64 (last - s + 1) := by
    simp only [IsInt64, minInt64, maxInt64]
    omega
  have hsum : IsInt64 (s + if last - s + 1 > m then m else last - s + 1) := by
    simp only [IsInt64, minInt64, maxInt64]
    split <;> omega
  have hend : IsInt64 ((s + if last - s + 1 > m then m else last - s + 1) - 1) := by
    simp only [IsInt64, minInt64, maxInt64]
    split <;> omega
  have hmin : (s + if last - s + 1 > m then m else last - s + 1) - 1 = min (s + m - 1) last := by
    split <;> omega
  rw [checkedInt64_of_isInt64 hdifference]
  simp only [bind, Option.bind_some]
  rw [checkedInt64_of_isInt64 hcan, Option.bind_some, checkedInt64_of_isInt64 hsum,
    Option.bind_some, checkedInt64_of_isInt64 hend, hmin]

theorem windowEnd_le_head (m : Int) (task : LiveTask) (head : Int) :
  task.windowEnd m head ≤ head
  := by
  rw [windowEnd]
  split <;> omega

end LiveTask

/-! ### The blocks of a batch -/

/-- What the group manager and the ledger say of each block: the surroundings when it is asked
for, and the answer to the fetch. -/
structure BlockLedger where
  env : Int → Env
  error : Int → Option Error
  block : Int → Block

namespace BlockLedger

variable (ledger : BlockLedger) (group : String)

/-- The group has a node service when a block is asked for. -/
def Serves (b : Int) : Prop := (ledger.env b).hasNodeService group = true

/-- The fetch of a block succeeds. -/
def Yields (b : Int) : Prop := Error.failed (ledger.error b) = false

/-- The answer to the fetch of a block. Its callback asks for the next block. -/
def answer (endBlockNumber blockNumber : Int) : TaskAction :=
  .blockData (ledger.env (blockNumber + 1)) ⟨blockNumber, endBlockNumber⟩
    (ledger.error blockNumber) (ledger.block blockNumber)

/-- A walk from a block to the last one: the blocks asked for, the block it gets to, and whether
it is lost there, for want of a node service. -/
inductive Walk (e : Int) : Int → List Int → Int → Bool → Prop where
  | ended {b : Int} (h : e < b) : Walk e b [] b false
  | lost {b : Int} (h : b ≤ e) (hserves : ¬ ledger.Serves group b) : Walk e b [] b true
  | failed {b : Int} (h : b ≤ e) (hserves : ledger.Serves group b) (hyields : ¬ ledger.Yields b) :
      Walk e b [b] b false
  | fetched {b reached : Int} {asked : List Int} {isLost : Bool} (h : b ≤ e)
      (hserves : ledger.Serves group b) (hyields : ledger.Yields b)
      (hrest : Walk e (b + 1) asked reached isLost) :
      Walk e b (b :: asked) reached isLost

end BlockLedger

theorem blocksFrom_cons {first k : Int} (h : first < k) :
  blocksFrom first k = first :: blocksFrom (first + 1) k
  := by
  have hlen : (k - first).toNat = (k - (first + 1)).toNat + 1 := by omega
  rw [blocksFrom, blocksFrom, hlen, List.range_succ_eq_map, List.map_cons, List.map_map]
  congr 1
  · simp
  · apply List.map_congr_left
    intro i _
    simp only [Function.comp_apply]
    omega

namespace BlockLedger.Walk

variable {ledger : BlockLedger} {group : String} {e b reached : Int} {asked : List Int}
  {isLost : Bool}

theorem le_reached (h : ledger.Walk group e b asked reached isLost) :
  b ≤ reached
  := by
  induction h with
  | fetched _ _ _ _ ih => omega
  | _ => omega

/-- When every block is served and yields, all are asked for. -/
theorem full (h : ledger.Walk group e b asked reached isLost)
    (hall : ∀ i, b ≤ i → i ≤ e → ledger.Serves group i ∧ ledger.Yields i) :
  asked = blocksFrom b (e + 1) ∧ reached = max b (e + 1) ∧ isLost = false
  := by
  induction h with
  | ended h =>
      rw [blocksFrom_of_le (by omega)]
      exact ⟨rfl, by omega, rfl⟩
  | lost h hserves => exact absurd (hall _ le_rfl h).1 hserves
  | failed h _ hyields => exact absurd (hall _ le_rfl h).2 hyields
  | @fetched b _ _ _ h _ _ _ ih =>
      obtain ⟨hasked, hreached, hlost⟩ := ih fun i hi => hall i (by omega)
      rw [blocksFrom_cons (by omega), hasked]
      exact ⟨rfl, by omega, hlost⟩

/-- A walk stops at the first block that is not served, which it does not ask for. -/
theorem of_not_serves (h : ledger.Walk group e b asked reached isLost) {stop : Int} (hb : b ≤ stop)
    (hstop : stop ≤ e)
    (hbefore : ∀ i, b ≤ i → i < stop → ledger.Serves group i ∧ ledger.Yields i)
    (hserves : ¬ ledger.Serves group stop) :
  asked = blocksFrom b stop ∧ reached = stop ∧ isLost = true
  := by
  induction h with
  | ended h => omega
  | @lost b h hnot =>
      obtain rfl : b = stop := by
        by_contra hne
        apply hnot (hbefore b le_rfl (by omega)).1
      rw [blocksFrom_of_le le_rfl]
      exact ⟨rfl, rfl, rfl⟩
  | @failed b h hserved hnot =>
      have hne : b ≠ stop := by
        rintro rfl
        apply hserves hserved
      apply absurd (hbefore b le_rfl (by omega)).2 hnot
  | @fetched b _ _ _ h hserved _ _ ih =>
      have hne : b ≠ stop := by
        rintro rfl
        apply hserves hserved
      obtain ⟨hasked, hreached, hlost⟩ := ih (by omega) fun i hi => hbefore i (by omega)
      rw [blocksFrom_cons (by omega), hasked]
      exact ⟨rfl, hreached, hlost⟩

/-- A walk stops at the first block whose fetch fails. -/
theorem of_not_yields (h : ledger.Walk group e b asked reached isLost) {stop : Int} (hb : b ≤ stop)
    (hstop : stop ≤ e)
    (hbefore : ∀ i, b ≤ i → i < stop → ledger.Serves group i ∧ ledger.Yields i)
    (hserves : ledger.Serves group stop) (hyields : ¬ ledger.Yields stop) :
  asked = blocksFrom b (stop + 1) ∧ reached = stop ∧ isLost = false
  := by
  induction h with
  | ended h => omega
  | @lost b h hnot =>
      have hne : b ≠ stop := by
        rintro rfl
        apply hnot hserves
      apply absurd (hbefore b le_rfl (by omega)).1 hnot
  | @failed b h _ hnot =>
      obtain rfl : b = stop := by
        by_contra hne
        apply hnot (hbefore b le_rfl (by omega)).2
      rw [blocksFrom_cons (by omega), blocksFrom_of_le le_rfl]
      exact ⟨rfl, rfl, rfl⟩
  | @fetched b _ _ _ h _ hyielded _ ih =>
      have hne : b ≠ stop := by
        rintro rfl
        apply hyields hyielded
      obtain ⟨hasked, hreached, hlost⟩ := ih (by omega) fun i hi => hbefore i (by omega)
      rw [blocksFrom_cons (by omega), hasked]
      exact ⟨rfl, hreached, hlost⟩

end BlockLedger.Walk

/-! ### The run of a batch -/

/-- The tasks whose cancellation is enqueued. -/
def enqueuedIds (o : List TaskOutput) : List String :=
  o.filterMap fun
    | .unsubscribeEventSub id => some id
    | _ => none

@[simp]
theorem enqueuedIds_append (o o' : List TaskOutput) :
  enqueuedIds (o ++ o') = enqueuedIds o ++ enqueuedIds o'
  := List.filterMap_append

@[simp]
theorem enqueuedIds_pushed (env : Env) (block : Block) (task : LiveTask) :
  enqueuedIds (task.pushed env block) = []
  := by
  rcases task.pushed_cases env block with h | ⟨jResp, h⟩
  · rw [h]
    rfl
  · rw [h]
    rfl

/-- What a batch of a task leaves when none of its fetches is in flight any more: the blocks it
asked for, the cursor, and the task lost, with its flag set and a cancellation enqueued, or
free. -/
structure BatchEnds (task next : LiveTask) (out : List TaskOutput) (asked : List Int)
    (cursor : Int) (isLost : Bool) : Prop where
  subscription : next.toSubscription = task.toSubscription
  settled : next.blockFetches.Perm task.blockFetches
  asked : askedBlocks out = asked
  cursor : next.cursor = cursor
  work : next.work = isLost
  enqueued : enqueuedIds out = if isLost then [task.id] else []

/-- A fetch that is made and answered leaves the others in flight. -/
theorem LiveTask.perm_removeFetch_addFetch (task : LiveTask) (fetch : BlockFetch) :
  ((task.addFetch fetch).removeFetch fetch).blockFetches.Perm task.blockFetches
  := by
  have hperm := (List.perm_append_singleton fetch task.blockFetches).erase fetch
  rwa [List.erase_cons_head] at hperm

section

variable {m e b : Int} {task : LiveTask} (ledger : BlockLedger)

theorem step_answer_failed (hyields : ¬ ledger.Yields b) :
  (taskMachine64 m).step (task.addFetch ⟨b, e⟩) (ledger.answer e b)
    = some (((task.addFetch ⟨b, e⟩).removeFetch ⟨b, e⟩).setWork false, [.failed b])
  := by
  have hfetch : (⟨b, e⟩ : BlockFetch) ∈ (task.addFetch ⟨b, e⟩).blockFetches :=
    List.mem_concat_self
  have hfailed : Error.failed (ledger.error b) = true := by
    simpa only [BlockLedger.Yields, Bool.not_eq_false] using hyields
  simp only [taskMachine64, BlockLedger.answer]
  rw [if_pos hfetch, LiveTask.onBlockData64, if_pos hfailed]

/-- The answer to a fetch moves the cursor and goes on with the next block. -/
theorem step_answer_yields (hyields : ledger.Yields b) (hnext : IsInt64 (b + 1)) :
  (taskMachine64 m).step (task.addFetch ⟨b, e⟩) (ledger.answer e b)
    = some (let fetched := (task.addFetch ⟨b, e⟩).removeFetch ⟨b, e⟩
        let continued := (fetched.setCurrentBlockNumber (b + 1)).process (ledger.env (b + 1))
          (b + 1) e
        (continued.1, fetched.pushed (ledger.env (b + 1)) (ledger.block b)
          ++ .processed b :: continued.2))
  := by
  have hfetch : (⟨b, e⟩ : BlockFetch) ∈ (task.addFetch ⟨b, e⟩).blockFetches :=
    List.mem_concat_self
  have hanswered : ¬ Error.failed (ledger.error b) = true := by
    rw [show Error.failed (ledger.error b) = false from hyields]
    apply Bool.false_ne_true
  simp only [taskMachine64, BlockLedger.answer]
  rw [if_pos hfetch, LiveTask.onBlockData64, if_neg hanswered, checkedInt64_of_isInt64 hnext]
  rfl

theorem process_of_lt (h : e < b) (env : Env) :
  task.process env b e = (task.setWork false, [])
  := if_pos h

theorem process_of_serves (h : b ≤ e) (hserves : ledger.Serves task.group b) :
  task.process (ledger.env b) b e
    = (task.addFetch ⟨b, e⟩, [.asyncGetBlockDataByNumber b])
  := by
  rw [LiveTask.process, if_neg (Int.not_lt.mpr h), LiveTask.processNextBlock,
    show (ledger.env b).hasNodeService task.group = true from hserves]
  rfl

theorem process_of_not_serves (h : b ≤ e) (hserves : ¬ ledger.Serves task.group b) :
  task.process (ledger.env b) b e = (task, [.unsubscribeEventSub task.id])
  := by
  rw [LiveTask.process, if_neg (Int.not_lt.mpr h), LiveTask.processNextBlock,
    show (ledger.env b).hasNodeService task.group = false from Bool.not_eq_true _ ▸ hserves]
  rfl

/-- A batch that ends after a block ends so with this block before it. -/
theorem BatchEnds.cons_block {next : LiveTask} {out out' : List TaskOutput} {asked : List Int}
    {cursor : Int} {isLost : Bool} (env : Env) (block : Block)
    (h : BatchEnds (((task.addFetch ⟨b, e⟩).removeFetch ⟨b, e⟩).setCurrentBlockNumber (b + 1))
      next (out ++ out') asked cursor isLost) :
  BatchEnds task next (.asyncGetBlockDataByNumber b ::
      (((task.addFetch ⟨b, e⟩).removeFetch ⟨b, e⟩).pushed env block ++ .processed b :: out)
        ++ out') (b :: asked) cursor isLost
  := by
  constructor
  · apply h.subscription
  · apply h.settled.trans (task.perm_removeFetch_addFetch ⟨b, e⟩)
  · have hasked := h.asked
    rw [← List.singleton_append]
    simp only [askedBlocks_append] at hasked ⊢
    rw [askedBlocks_pushed, ← hasked]
    rfl
  · apply h.cursor
  · apply h.work
  · have henqueued := h.enqueued
    rw [← List.singleton_append]
    simp only [enqueuedIds_append] at henqueued ⊢
    rw [enqueuedIds_pushed]
    apply henqueued

/-- A batch that goes on with a block walks to its end, and each fetch is answered. -/
theorem process_walks (hmax : e + 1 ≤ maxInt64) (hb : 0 ≤ b) (hcursor : task.cursor ≤ b)
    (hwork : task.work = true) :
  ∃ asked reached isLost next out, ledger.Walk task.group e b asked reached isLost
    ∧ (taskMachine64 m).run (task.process (ledger.env b) b e).1 (asked.map (ledger.answer e))
      = some (next, out)
    ∧ BatchEnds task next ((task.process (ledger.env b) b e).2 ++ out) asked
      (if b < reached then reached else task.cursor) isLost
  := by
  -- The induction is on the blocks left.
  induction hn : (e + 1 - b).toNat generalizing b task with
  | zero =>
      refine ⟨[], b, false, task.setWork false, [], .ended (by omega), ?_, ?_⟩
      · rw [process_of_lt (by omega)]
        rfl
      · rw [process_of_lt (by omega), if_neg (lt_irrefl b)]
        exact ⟨rfl, .refl _, rfl, rfl, rfl, rfl⟩
  | succ n ih =>
      have hle : b ≤ e := by omega
      by_cases hserves : ledger.Serves task.group b
      · rw [process_of_serves ledger hle hserves]
        let fetched := (task.addFetch ⟨b, e⟩).removeFetch ⟨b, e⟩
        by_cases hyields : ledger.Yields b
        · have hnext : IsInt64 (b + 1) := by
            simp only [IsInt64, minInt64, maxInt64] at hmax ⊢
            omega
          have hmoved : (fetched.setCurrentBlockNumber (b + 1)).cursor = b + 1 := by
            rw [LiveTask.cursor_setCurrentBlockNumber]
            have : fetched.cursor = task.cursor := rfl
            omega
          obtain ⟨asked, reached, isLost, next, out, hwalk, hrun, hends⟩ :=
            ih (by omega) hmoved.le hwork (by omega)
          refine ⟨b :: asked, reached, isLost, next, _, .fetched hle hserves hyields hwalk,
            (Machine.run_cons _).mpr
              ⟨_, _, _, step_answer_yields ledger hyields hnext, hrun, rfl⟩, ?_⟩
          have hreached := hwalk.le_reached
          have hcursor' : (if b + 1 < reached then reached else b + 1)
              = if b < reached then reached else task.cursor := by
            split <;> split <;> omega
          rw [hmoved, hcursor'] at hends
          apply hends.cons_block
        · refine ⟨[b], b, false, fetched.setWork false, [.failed b],
            .failed hle hserves hyields, ?_, ?_⟩
          · rw [List.map_singleton, Machine.run_singleton, step_answer_failed ledger hyields]
          · rw [if_neg (lt_irrefl b)]
            exact ⟨rfl, task.perm_removeFetch_addFetch ⟨b, e⟩, rfl, rfl, rfl, rfl⟩
      · rw [process_of_not_serves ledger hle hserves]
        use [], b, true, task, [], .lost hle hserves, rfl
        rw [if_neg (lt_irrefl b)]
        exact ⟨rfl, .refl _, rfl, rfl, hwork, rfl⟩

/-- A batch that goes on with a block while no other one is in flight has one fetch in flight. -/
theorem length_continues {env : Env} {next : LiveTask} {out : List TaskOutput}
    (hnil : task.blockFetches = []) (h : Continues env b e task (next, out)) :
  next.blockFetches.length ≤ 1
  := by
  cases h with
  | ended _ => simp [hnil]
  | noNodeService _ _ => simp [hnil]
  | fetch _ _ => simp [hnil]

theorem length_step_answer {next : LiveTask} {out : List TaskOutput}
    (hone : task.blockFetches.length ≤ 1)
    (hstep : (taskMachine64 m).step task (ledger.answer e b) = some (next, out)) :
  task.blockFetches = [⟨b, e⟩] ∧ next.blockFetches.length ≤ 1
  := by
  have honly : ∀ fetch ∈ task.blockFetches, task.blockFetches = [fetch] := by
    intro fetch hfetch
    obtain ⟨other, hother⟩ :=
      List.length_eq_one_iff.mp (le_antisymm hone (List.length_pos_of_mem hfetch))
    rw [hother] at hfetch ⊢
    rw [List.mem_singleton.mp hfetch]
  cases taskMachine_step (taskMachine64_step hstep) with
  | fetchFailed hfetch _ =>
      use honly _ hfetch
      rw [LiveTask.blockFetches_setWork,
        LiveTask.blockFetches_removeFetch_of_eq (honly _ hfetch)]
      apply Nat.zero_le 1
  | fetched hfetch _ hr =>
      use honly _ hfetch
      apply length_continues _ hr
      apply LiveTask.blockFetches_removeFetch_of_eq (honly _ hfetch)

/-- When no other batch is in flight, the answers of the ledger can come in one way only. -/
theorem run_answers_unique {blocks blocks' : List Int} {next next' : LiveTask}
    {out out' : List TaskOutput} (hone : task.blockFetches.length ≤ 1)
    (hrun : (taskMachine64 m).run task (blocks.map (ledger.answer e)) = some (next, out))
    (hdone : next.blockFetches = [])
    (hrun' : (taskMachine64 m).run task (blocks'.map (ledger.answer e)) = some (next', out'))
    (hdone' : next'.blockFetches = []) :
  next' = next ∧ out' = out
  := by
  induction blocks generalizing task blocks' out out' with
  | nil =>
      obtain ⟨rfl, rfl⟩ := Prod.mk.inj (Option.some.inj hrun)
      cases blocks' with
      | nil =>
          obtain ⟨rfl, rfl⟩ := Prod.mk.inj (Option.some.inj hrun')
          exact ⟨rfl, rfl⟩
      | cons b' blocks' =>
          obtain ⟨_, _, _, hstep', _, _⟩ := (Machine.run_cons _).mp hrun'
          rw [(length_step_answer ledger hone hstep').1] at hdone
          cases hdone
  | cons b blocks ih =>
      obtain ⟨t, o, rest, hstep, hrest, rfl⟩ := (Machine.run_cons _).mp hrun
      obtain ⟨hfetch, hlater⟩ := length_step_answer ledger hone hstep
      cases blocks' with
      | nil =>
          obtain ⟨rfl, rfl⟩ := Prod.mk.inj (Option.some.inj hrun')
          rw [hfetch] at hdone'
          cases hdone'
      | cons b' blocks' =>
          obtain ⟨t', o', rest', hstep', hrest', rfl⟩ := (Machine.run_cons _).mp hrun'
          have hfetch' := (length_step_answer ledger hone hstep').1
          rw [hfetch] at hfetch'
          obtain rfl := (BlockFetch.mk.inj (List.singleton_inj.mp hfetch')).1
          rw [hstep] at hstep'
          obtain ⟨rfl, rfl⟩ := Prod.mk.inj (Option.some.inj hstep')
          obtain ⟨rfl, rfl⟩ := ih hlater hrest hrest'
          exact ⟨rfl, rfl⟩

end

/-! ### The batch -/

/-- The batch of a task with the head of the chain, when the ledger answers every fetch: a batch
whose first block is not sealed changes nothing, and else it asks for the blocks of its window in
order, up to the first one that is not served, or whose fetch fails. -/
structure OneBatch (m head : Int) (ledger : BlockLedger) (task next : LiveTask)
    (out : List TaskOutput) : Prop where
  waiting : head < task.startBlock head → next = task ∧ out = []
  full : task.startBlock head ≤ head →
    (∀ b, task.startBlock head ≤ b → b ≤ task.windowEnd m head →
      ledger.Serves task.group b ∧ ledger.Yields b) →
    BatchEnds task next out
      (blocksFrom (task.startBlock head) (task.windowEnd m head + 1))
      (if task.startBlock head ≤ task.windowEnd m head then task.windowEnd m head + 1
        else task.cursor) false
  failed : task.startBlock head ≤ head → ∀ b, task.startBlock head ≤ b →
    b ≤ task.windowEnd m head →
    (∀ i, task.startBlock head ≤ i → i < b → ledger.Serves task.group i ∧ ledger.Yields i) →
    ledger.Serves task.group b → ¬ ledger.Yields b →
    BatchEnds task next out (blocksFrom (task.startBlock head) (b + 1))
      (if task.startBlock head < b then b else task.cursor) false
  lost : task.startBlock head ≤ head → ∀ b, task.startBlock head ≤ b →
    b ≤ task.windowEnd m head →
    (∀ i, task.startBlock head ≤ i → i < b → ledger.Serves task.group i ∧ ledger.Yields i) →
    ¬ ledger.Serves task.group b →
    BatchEnds task next out (blocksFrom (task.startBlock head) b)
      (if task.startBlock head < b then b else task.cursor) true

namespace LiveTask

variable {m head : Int} (ledger : BlockLedger) {task : LiveTask}

/-- The batch of a task whose first block is sealed. -/
theorem executeBatch64_of_le (hm : 1 ≤ m) (hhead : 0 ≤ head) (hmax : head + 1 ≤ maxInt64)
    (hle : task.startBlock head ≤ head) :
  ∃ next out,
    let opened := (task.setWork true).process (ledger.env (task.startBlock head))
      (task.startBlock head) (task.windowEnd m head)
    task.executeBatch64 m (ledger.env (task.startBlock head)) head = some opened
      ∧ (taskMachine64 m).run opened.1
          ((askedBlocks (opened.2 ++ out)).map (ledger.answer (task.windowEnd m head)))
        = some (next, out)
      ∧ OneBatch m head ledger task next (opened.2 ++ out)
      ∧ next.blockFetches.Perm task.blockFetches
  := by
  obtain ⟨height, rfl⟩ := Int.eq_ofNat_of_zero_le hhead
  obtain ⟨hstart, hcursor⟩ := task.startBlock_bounds height
  have hlast := windowEnd_le_head m task height
  have hopen : task.executeBatch64 m (ledger.env (task.startBlock height)) height
      = some ((task.setWork true).process (ledger.env (task.startBlock height))
          (task.startBlock height) (task.windowEnd m height)) := by
    rw [executeBatch64, if_neg (Int.not_lt.mpr hle), endBlock64_eq hm hmax hstart hle]
    rfl
  obtain ⟨asked, reached, isLost, next, out, hwalk, hrun, hends⟩ :=
    process_walks (m := m) ledger (show task.windowEnd m height + 1 ≤ maxInt64 by omega) hstart
      (show (task.setWork true).cursor ≤ task.startBlock height from hcursor) rfl
  refine ⟨next, out, hopen, ?_, ?_, hends.settled⟩
  · rw [hends.asked]
    apply hrun
  · have hbatch : BatchEnds task next (((task.setWork true).process
          (ledger.env (task.startBlock height)) (task.startBlock height)
          (task.windowEnd m height)).2 ++ out) asked
        (if task.startBlock height < reached then reached else task.cursor) isLost :=
      ⟨hends.subscription, hends.settled, hends.asked, hends.cursor, hends.work, hends.enqueued⟩
    constructor
    · intro hwaits
      omega
    · intro _ hall
      obtain ⟨rfl, rfl, rfl⟩ := hwalk.full hall
      convert hbatch using 1
      split <;> split <;> omega
    · intro _ b hb hbe hbefore hserves hyields
      obtain ⟨rfl, rfl, rfl⟩ := hwalk.of_not_yields hb hbe hbefore hserves hyields
      apply hbatch
    · intro _ b hb hbe hbefore hserves
      obtain ⟨rfl, rfl, rfl⟩ := hwalk.of_not_serves hb hbe hbefore hserves
      apply hbatch

/-- A batch, exactly: no computation overflows, every block asked for is answered, in order, and
the batch ends as its window and the answers say; when no other batch is in flight, it cannot end
in another way. -/
theorem executeBatch64_exact (hm : 1 ≤ m) (hhead : 0 ≤ head) (hmax : head + 1 ≤ maxInt64)
    (task : LiveTask) :
  ∃ opened out₀ next out₁,
    task.executeBatch64 m (ledger.env (task.startBlock head)) head = some (opened, out₀)
      ∧ (taskMachine64 m).run opened
          ((askedBlocks (out₀ ++ out₁)).map (ledger.answer (task.windowEnd m head)))
        = some (next, out₁)
      ∧ OneBatch m head ledger task next (out₀ ++ out₁)
      ∧ (task.blockFetches = [] → ∀ (blocks : List Int) next' out',
        (taskMachine64 m).run opened (blocks.map (ledger.answer (task.windowEnd m head)))
          = some (next', out') → next'.blockFetches = [] → next' = next ∧ out' = out₁)
  := by
  by_cases hle : task.startBlock head ≤ head
  · obtain ⟨next, out, hopen, hrun, hbatch, hsettled⟩ :=
      executeBatch64_of_le ledger hm hhead hmax hle
    refine ⟨_, _, next, out, hopen, hrun, hbatch, ?_⟩
    intro hnil blocks next' out' hrun' hdone'
    have hnone : (task.setWork true).blockFetches = [] := hnil
    have hone := length_continues hnone ((task.setWork true).process_continues
      (ledger.env (task.startBlock head)) (task.startBlock head) (task.windowEnd m head))
    apply run_answers_unique ledger hone hrun _ hrun' hdone'
    rw [hnil] at hsettled
    apply List.perm_nil.mp hsettled
  · refine ⟨task, [], task, [], ?_, rfl, ?_, ?_⟩
    · rw [executeBatch64, if_pos (Int.not_le.mp hle)]
    · constructor
      · intro _
        exact ⟨rfl, rfl⟩
      all_goals
        intro h
        apply absurd h hle
    · intro hnil blocks next' out' hrun' hdone'
      have hnone : (taskMachine64 m).run task
          (([] : List Int).map (ledger.answer (task.windowEnd m head))) = some (task, []) := rfl
      apply run_answers_unique ledger (by simp [hnil]) hnone hnil hrun' hdone'

/-- A ledger with empty blocks. -/
def emptyBlocks : BlockLedger where
  env _ := ⟨fun _ => true, fun _ => true⟩
  error _ := none
  block _ := ⟨none, [], []⟩

/-- A task that starts with block `5`. -/
def fromFive : LiveTask := ofSubscription ⟨"1", "group0", ⟨0, ""⟩, { fromBlock := 5 }⟩

theorem executeBatch64_exact_fromFive :
  ∃ opened out₀ next out₁,
    fromFive.executeBatch64 2 (emptyBlocks.env 5) 8 = some (opened, out₀)
      ∧ (taskMachine64 2).run opened ([5, 6].map (emptyBlocks.answer 6)) = some (next, out₁)
      ∧ askedBlocks (out₀ ++ out₁) = [5, 6] ∧ next.cursor = 7 ∧ next.work = false
  := by
  obtain ⟨opened, out₀, next, out₁, hopen, hrun, hbatch, _⟩ :=
    executeBatch64_exact emptyBlocks (show (1 : Int) ≤ 2 by decide) (show (0 : Int) ≤ 8 by decide)
      (by decide) fromFive
  have hends := hbatch.full (by decide) fun _ _ _ => ⟨rfl, rfl⟩
  have hasked : askedBlocks (out₀ ++ out₁) = [5, 6] := hends.asked
  rw [hasked] at hrun
  exact ⟨opened, out₀, next, out₁, hopen, hrun, hasked, hends.cursor, hends.work⟩

end LiveTask
