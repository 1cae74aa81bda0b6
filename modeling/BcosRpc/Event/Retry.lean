import BcosRpc.Event.Batch

/-!
# Blocks and failed fetches

When the worker visits a task only after its requests are answered, the blocks the task has
processed are the ones from the first block it asked for up to its cursor, and a fetch that
failed is made again, as long as the block to start from does not move. It moves with the
chain while nothing is processed and the request names no first block.
-/

/-! ### Fetches among the outputs -/

/-- The first block asked for. -/
def firstAsked (o : List TaskOutput) : Option Int :=
  o.findSome? fun
    | .asyncGetBlockDataByNumber blockNumber => some blockNumber
    | _ => none

/-- The block of a failed fetch after an output, from the one before it. -/
def nextUnretried (failed : Option Int) : TaskOutput → Option Int
  | .failed blockNumber => some blockNumber
  | .asyncGetBlockDataByNumber _ => none
  | _ => failed

/-- The block of the last fetch that failed, if no block was asked for since. -/
def unretried (o : List TaskOutput) : Option Int := o.foldl nextUnretried none

/-- A block asked for after a failed fetch is the one of that fetch. -/
def Retries (o : List TaskOutput) : Prop :=
  ∀ o' blockNumber, o' ++ [.asyncGetBlockDataByNumber blockNumber] <+: o →
    ∀ failed, unretried o' = some failed → blockNumber = failed

/-- The blocks from a first one up to the one before the cursor. -/
def blocksFrom (first cursor : Int) : List Int :=
  (List.range (cursor - first).toNat).map fun (i : Nat) => first + (i : Int)

theorem blocksFrom_of_le {first cursor : Int} (h : cursor ≤ first) :
  blocksFrom first cursor = []
  := by
  rw [blocksFrom, Int.toNat_of_nonpos (by omega)]
  rfl

theorem blocksFrom_succ {first b : Int} (h : first ≤ b) :
  blocksFrom first (b + 1) = blocksFrom first b ++ [b]
  := by
  have hlen : (b + 1 - first).toNat = (b - first).toNat + 1 := by omega
  have hlast : first + ((b - first).toNat : Int) = b := by omega
  rw [blocksFrom, blocksFrom, hlen, List.range_succ, List.map_append, List.map_singleton, hlast]

theorem firstAsked_append (o o' : List TaskOutput) :
  firstAsked (o ++ o') = (firstAsked o).or (firstAsked o')
  := List.findSome?_append

theorem unretried_append_singleton (o : List TaskOutput) (x : TaskOutput) :
  unretried (o ++ [x]) = nextUnretried (unretried o) x
  := List.foldl_append

theorem retries_append_singleton (o : List TaskOutput) (x : TaskOutput) :
  Retries (o ++ [x]) ↔ Retries o ∧ ∀ blockNumber, x = .asyncGetBlockDataByNumber blockNumber →
    ∀ failed, unretried o = some failed → blockNumber = failed
  := by
  constructor
  · intro h
    constructor
    · intro o' b hpre
      apply h o' b (hpre.trans (List.prefix_append o [x]))
    · rintro b rfl
      apply h o b (List.prefix_refl _)
  · rintro ⟨h, hx⟩ o' b hpre
    rcases List.prefix_concat_iff.mp hpre with heq | hpre
    · obtain ⟨rfl, hb⟩ := List.append_inj' heq rfl
      apply hx b (List.singleton_inj.mp hb).symm
    · apply h o' b hpre

/-! ### Silent outputs -/

/-- An output that tells nothing about a fetch. -/
def TaskOutput.Silent : TaskOutput → Prop
  | .asyncGetBlockDataByNumber _ => False
  | .failed _ => False
  | .processed _ => False
  | _ => True

theorem silent_append_singleton {o : List TaskOutput} {x : TaskOutput} (hx : x.Silent) :
  firstAsked (o ++ [x]) = firstAsked o ∧ processedBlocks (o ++ [x]) = processedBlocks o
    ∧ unretried (o ++ [x]) = unretried o ∧ (Retries (o ++ [x]) ↔ Retries o)
  := by
  rw [firstAsked_append, processedBlocks_append, unretried_append_singleton,
    retries_append_singleton]
  cases x with
  | asyncGetBlockDataByNumber b => cases hx
  | failed b => cases hx
  | processed b => cases hx
  | _ => simp [firstAsked, processedBlocks, nextUnretried]

/-- The messages for a block are silent. -/
theorem silent_pushed (env : Env) (block : Block) (task : LiveTask) :
  ∀ x ∈ task.pushed env block, x.Silent
  := by
  rcases task.pushed_cases env block with h | ⟨jResp, h⟩
  · simp [h]
  · simp [h, TaskOutput.Silent]

/-! ### The invariant -/

/-- The block a task goes on with. -/
def resumeBlock (first cursor : Int) : Int := if cursor < 0 then first else cursor

/-- What is known of the outputs of a task that has asked for a block: the blocks from the
first one up to the cursor are processed, and the block to go on with is the one in flight,
or the one of the last failed fetch. -/
structure Progress (o : List TaskOutput) (first fromBlock cursor : Int)
    (fetches : List BlockFetch) : Prop where
  nonneg : 0 ≤ first
  named : 0 < fromBlock → first = fromBlock
  moved : cursor < 0 ∨ first < cursor
  processed : processedBlocks o = blocksFrom first cursor
  inFlight : ∀ f ∈ fetches, f.blockNumber = resumeBlock first cursor ∧ unretried o = none
  failed : ∀ b, unretried o = some b → b = resumeBlock first cursor
  unanswered : fetches = [] → cursor < 0 → unretried o = some first

theorem Progress.resume_nonneg {o : List TaskOutput} {first fromBlock cursor : Int}
    {fetches : List BlockFetch} (h : Progress o first fromBlock cursor fetches) :
  0 ≤ resumeBlock first cursor
  := by
  have h0 := h.nonneg
  rw [resumeBlock]
  split <;> omega

/-- With the block to go on with in flight, no failed fetch is left. -/
theorem Progress.fetching {o : List TaskOutput} {first fromBlock cursor : Int} {f : BlockFetch}
    (h0 : 0 ≤ first) (hfrom : 0 < fromBlock → first = fromBlock)
    (hmoved : cursor < 0 ∨ first < cursor) (hp : processedBlocks o = blocksFrom first cursor)
    (hb : f.blockNumber = resumeBlock first cursor) (hnone : unretried o = none) :
  Progress o first fromBlock cursor [f]
  := by
  use h0, hfrom, hmoved, hp
  · intro f' hf'
    obtain rfl := List.mem_singleton.mp hf'
    exact ⟨hb, hnone⟩
  · intro b hsome
    rw [hnone] at hsome
    cases hsome
  · intro hnil
    cases hnil

/-- The block in flight is the one after the blocks processed, or the first one. -/
theorem Progress.cursor_of_inFlight {o : List TaskOutput} {first fromBlock cursor : Int}
    {f : BlockFetch} (h : Progress o first fromBlock cursor [f]) :
  first ≤ f.blockNumber ∧ max cursor (f.blockNumber + 1) = f.blockNumber + 1
    ∧ 0 ≤ f.blockNumber ∧ blocksFrom first cursor = blocksFrom first f.blockNumber
  := by
  have hb := (h.inFlight f List.mem_cons_self).1
  have h0 := h.nonneg
  rw [resumeBlock] at hb
  rcases h.moved with hc | hc
  · rw [if_pos hc] at hb
    have hnow : blocksFrom first cursor = [] := blocksFrom_of_le (by omega)
    have hthen : blocksFrom first f.blockNumber = [] := blocksFrom_of_le (by omega)
    exact ⟨by omega, by omega, by omega, hnow.trans hthen.symm⟩
  · rw [if_neg (by omega)] at hb
    rw [hb]
    exact ⟨by omega, by omega, by omega, rfl⟩

/-- What is known of the outputs of a task that has asked for no block. -/
structure Untouched (o : List TaskOutput) (cursor : Int) (fetches : List BlockFetch) : Prop where
  unset : cursor < 0
  processed : processedBlocks o = []
  fetches : fetches = []
  failed : unretried o = none

structure RetryInvariant (o : List TaskOutput) (fromBlock cursor : Int)
    (fetches : List BlockFetch) : Prop where
  retries : Retries o
  untouched : firstAsked o = none → Untouched o cursor fetches
  progress : ∀ first, firstAsked o = some first → Progress o first fromBlock cursor fetches

/-- The blocks processed are those from the first one asked for up to the cursor, and a
fetch that failed is made again. -/
structure NoneSkipped (o : List TaskOutput) (task : LiveTask) : Prop where
  untouched : firstAsked o = none → processedBlocks o = []
  processed : ∀ first, firstAsked o = some first → processedBlocks o = blocksFrom first task.cursor
  retries : Retries o

/-- A batch that is opened while nothing is processed starts with the block first asked for:
when the request names no first block, the head of the chain is that block. -/
def StartsAgain (m : Int) (o : List TaskOutput) (task : LiveTask) : TaskAction → Prop
  | .blockNumber env error head => Opens m env error head task → task.cursor < 0 →
      task.params.fromBlock ≤ 0 → ∀ first, firstAsked o = some first → (head : Int) = first
  | _ => True

namespace RetryInvariant

variable {m : Int} {o : List TaskOutput} {fromBlock cursor : Int} {fetches : List BlockFetch}

theorem start (fromBlock : Int) :
  RetryInvariant [] fromBlock (-1) []
  := by
  constructor
  · intro o' b hpre
    have hlen := hpre.length_le
    simp at hlen
  · intro _
    exact ⟨by omega, rfl, rfl, rfl⟩
  · intro first h
    cases h

theorem exists_firstAsked {f : BlockFetch} (h : RetryInvariant o fromBlock cursor [f]) :
  ∃ first, firstAsked o = some first
  := by
  cases hasked : firstAsked o with
  | none => cases (h.untouched hasked).fetches
  | some first => exact ⟨first, rfl⟩

/-- Silent outputs keep the invariant. -/
theorem silent (h : RetryInvariant o fromBlock cursor fetches) {out : List TaskOutput}
    (hout : ∀ x ∈ out, x.Silent) :
  RetryInvariant (o ++ out) fromBlock cursor fetches
  := by
  induction out generalizing o with
  | nil => rwa [List.append_nil]
  | cons x out ih =>
      rw [← List.singleton_append, ← List.append_assoc]
      apply ih _ (fun y hy => hout y (List.mem_cons_of_mem _ hy))
      obtain ⟨hfirst, hprocessed, hunretried, hretries⟩ :=
        silent_append_singleton (o := o) (hout x List.mem_cons_self)
      constructor
      · apply hretries.mpr h.retries
      · intro hnone
        rw [hfirst] at hnone
        obtain ⟨hc, hp, hf, hu⟩ := h.untouched hnone
        exact ⟨hc, hprocessed.trans hp, hf, hunretried.trans hu⟩
      · intro first hsome
        rw [hfirst] at hsome
        obtain ⟨h0, hfrom, hc, hp, hin, hfail, hun⟩ := h.progress first hsome
        rw [← hprocessed] at hp
        rw [← hunretried] at hin hfail hun
        exact ⟨h0, hfrom, hc, hp, hin, hfail, hun⟩

/-- A block is asked for when nothing is in flight: the block to go on with, or the first
one. -/
theorem ask (h : RetryInvariant o fromBlock cursor []) {f : BlockFetch}
    (hb : 0 ≤ f.blockNumber)
    (hfirst : firstAsked o = none → 0 < fromBlock → f.blockNumber = fromBlock)
    (hresume : ∀ first, firstAsked o = some first → f.blockNumber = resumeBlock first cursor) :
  RetryInvariant (o ++ [.asyncGetBlockDataByNumber f.blockNumber]) fromBlock cursor [f]
  := by
  have hnone : unretried (o ++ [.asyncGetBlockDataByNumber f.blockNumber]) = none := by
    rw [unretried_append_singleton]
    rfl
  have hprocessed : processedBlocks (o ++ [.asyncGetBlockDataByNumber f.blockNumber])
      = processedBlocks o := by
    simp [processedBlocks]
  constructor
  · rw [retries_append_singleton]
    use h.retries
    intro b hbf failed hfailed
    obtain rfl := TaskOutput.asyncGetBlockDataByNumber.inj hbf
    cases hasked : firstAsked o with
    | none =>
        rw [(h.untouched hasked).failed] at hfailed
        cases hfailed
    | some first =>
        rw [hresume first hasked]
        apply ((h.progress first hasked).failed failed hfailed).symm
  · intro hasked
    rw [firstAsked_append] at hasked
    cases hold : firstAsked o <;> simp [firstAsked] at hasked
  · intro first hasked
    rw [firstAsked_append] at hasked
    cases hold : firstAsked o with
    | none =>
        rw [hold] at hasked
        obtain rfl : f.blockNumber = first := Option.some.inj hasked
        obtain ⟨hc, hp, _, _⟩ := h.untouched hold
        have hstart : processedBlocks o = blocksFrom f.blockNumber cursor := by
          rw [hp, blocksFrom_of_le (by omega)]
        apply Progress.fetching hb (hfirst hold) (Or.inl hc) (hprocessed.trans hstart)
          (if_pos hc).symm hnone
    | some first' =>
        rw [hold] at hasked
        obtain rfl : first' = first := Option.some.inj hasked
        have hprog := h.progress first' hold
        apply Progress.fetching hprog.nonneg hprog.named hprog.moved
          (hprocessed.trans hprog.processed) (hresume first' hold) hnone

/-- A fetch in flight fails. -/
theorem fail {f : BlockFetch} (h : RetryInvariant o fromBlock cursor [f]) :
  RetryInvariant (o ++ [.failed f.blockNumber]) fromBlock cursor []
  := by
  have hfirst : firstAsked (o ++ [.failed f.blockNumber]) = firstAsked o := by
    rw [firstAsked_append]
    simp [firstAsked]
  have hprocessed : processedBlocks (o ++ [.failed f.blockNumber]) = processedBlocks o := by
    simp [processedBlocks]
  have hsome : unretried (o ++ [.failed f.blockNumber]) = some f.blockNumber := by
    rw [unretried_append_singleton]
    rfl
  constructor
  · rw [retries_append_singleton]
    exact ⟨h.retries, nofun⟩
  · intro hnone
    rw [hfirst] at hnone
    cases (h.untouched hnone).fetches
  · intro first hasked
    rw [hfirst] at hasked
    have hprog := h.progress first hasked
    have hb := (hprog.inFlight f List.mem_cons_self).1
    constructor
    · apply hprog.nonneg
    · apply hprog.named
    · apply hprog.moved
    · rw [hprocessed]
      apply hprog.processed
    · intro f' hf'
      cases hf'
    · intro b hfail
      rw [hsome] at hfail
      rw [← Option.some.inj hfail, hb]
    · intro _ hc
      rw [hsome, hb, resumeBlock, if_pos hc]

/-- A fetch in flight is answered with the block. -/
theorem succeed {f : BlockFetch} (h : RetryInvariant o fromBlock cursor [f]) :
  RetryInvariant (o ++ [.processed f.blockNumber]) fromBlock
      (max cursor (f.blockNumber + 1)) []
    ∧ ∀ first, firstAsked (o ++ [.processed f.blockNumber]) = some first →
      f.blockNumber + 1 = resumeBlock first (max cursor (f.blockNumber + 1))
  := by
  have hfirst : firstAsked (o ++ [.processed f.blockNumber]) = firstAsked o := by
    rw [firstAsked_append]
    simp [firstAsked]
  have hunretried : unretried (o ++ [.processed f.blockNumber]) = unretried o := by
    rw [unretried_append_singleton]
    rfl
  constructor
  · constructor
    · rw [retries_append_singleton]
      exact ⟨h.retries, nofun⟩
    · intro hnone
      rw [hfirst] at hnone
      cases (h.untouched hnone).fetches
    · intro first hasked
      rw [hfirst] at hasked
      have hprog := h.progress first hasked
      obtain ⟨hle, hmax, hb, hblocks⟩ := hprog.cursor_of_inFlight
      have hnone := (hprog.inFlight f List.mem_cons_self).2
      constructor
      · apply hprog.nonneg
      · apply hprog.named
      · omega
      · rw [processedBlocks_append, hprog.processed, hblocks, hmax, blocksFrom_succ hle]
        rfl
      · intro f' hf'
        cases hf'
      · intro b hfail
        rw [hunretried, hnone] at hfail
        cases hfail
      · intro _ hc
        omega
  · intro first hasked
    rw [hfirst] at hasked
    obtain ⟨_, hmax, hb, _⟩ := (h.progress first hasked).cursor_of_inFlight
    rw [hmax, resumeBlock, if_neg (by omega)]

/-- A batch continues with the block to go on with, or the first one. -/
theorem continues {env : Env} (task : LiveTask) {next : LiveTask} {b e : Int} {out : List TaskOutput}
    (h : RetryInvariant o fromBlock task.cursor task.blockFetches)
    (hnil : task.blockFetches = []) (hb : 0 ≤ b)
    (hfirst : firstAsked o = none → 0 < fromBlock → b = fromBlock)
    (hresume : ∀ first, firstAsked o = some first → b ≤ e →
      env.hasNodeService task.group = true → b = resumeBlock first task.cursor)
    (hr : Continues env b e task (next, out)) :
  RetryInvariant (o ++ out) fromBlock next.cursor next.blockFetches
  := by
  cases hr with
  | ended _ =>
      rw [List.append_nil]
      apply h
  | noNodeService _ _ =>
      apply h.silent
      simp [TaskOutput.Silent]
  | fetch hle hservice =>
      rw [hnil] at h
      rw [LiveTask.blockFetches_addFetch, hnil]
      apply h.ask (f := ⟨b, e⟩) hb hfirst
        (fun first hasked => hresume first hasked hle hservice)

theorem step {task next : LiveTask} {a : TaskAction} {out : List TaskOutput}
    (h : RetryInvariant o task.params.fromBlock task.cursor task.blockFetches)
    (hone : OneRequest task) (hC : StartsAgain m o task a)
    (hstep : (taskMachine m).step task a = some (next, out)) :
  RetryInvariant (o ++ out) next.params.fromBlock next.cursor next.blockFetches
  := by
  have htask := taskMachine_step hstep
  have hsub := htask.toSubscription_eq
  rw [show next.params = task.params from congrArg Subscription.params hsub]
  cases htask with
  | @opened env error head _ hquery herror hstart hr =>
      have hnil := hone.fetches_eq_nil hquery
      apply continues (task.removeQuery.setWork true) h hnil _ _ _ hr
      · apply (task.startBlock_bounds head).1
      · intro hnone hfrom
        have hunset := (h.untouched hnone).unset
        rw [LiveTask.startBlock, if_pos hunset, if_pos hfrom]
      · intro first hasked hle hservice
        show task.startBlock head = resumeBlock first task.cursor
        rw [LiveTask.startBlock, resumeBlock]
        split
        · rename_i hunset
          split
          · rename_i hfrom
            apply ((h.progress first hasked).named hfrom).symm
          · rename_i hfrom
            apply hC ⟨herror, hstart, hle, hservice⟩ hunset (by omega) first hasked
        · rfl
  | @fetchFailed env fetch error block hfetch herror =>
      have honly := hone.only hfetch
      rw [honly] at h
      rw [LiveTask.blockFetches_setWork, hone.removeFetch hfetch]
      apply h.fail
  | @fetched env fetch error block _ rest hfetch herror hr =>
      have honly := hone.only hfetch
      have hnil := hone.removeFetch hfetch
      rw [honly] at h
      have hpushed := h.silent (silent_pushed env block task)
      obtain ⟨hnext, hresume⟩ := hpushed.succeed
      obtain ⟨first, hasked⟩ := hpushed.exists_firstAsked
      have hasked' : firstAsked ((o ++ task.pushed env block) ++ [.processed fetch.blockNumber])
          = some first := by
        rw [firstAsked_append, hasked]
        rfl
      rw [← List.singleton_append, ← List.append_assoc, ← List.append_assoc]
      apply continues ((task.removeFetch fetch).setCurrentBlockNumber
        (fetch.blockNumber + 1)) _ hnil _ _ _ hr
      · rw [LiveTask.cursor_setCurrentBlockNumber, LiveTask.blockFetches_setCurrentBlockNumber,
          hnil]
        apply hnext
      · rw [hresume first hasked']
        apply (hnext.progress first hasked').resume_nonneg
      · intro hnone
        rw [hasked'] at hnone
        cases hnone
      · intro first hasked _ _
        rw [LiveTask.cursor_setCurrentBlockNumber]
        apply hresume first hasked
  | _ =>
      apply h.silent
      simp [TaskOutput.Silent]

end RetryInvariant

/-- A batch that is opened while nothing is processed, and does not start with the block
first asked for, abandons that block. -/
theorem RetryInvariant.startsAgain {m : Int} {o : List TaskOutput} {task next : LiveTask}
    {a : TaskAction} {out : List TaskOutput}
    (h : RetryInvariant o task.params.fromBlock task.cursor task.blockFetches)
    (hone : OneRequest task) (hstep : (taskMachine m).step task a = some (next, out))
    (hretries : Retries (o ++ out)) :
  StartsAgain m o task a
  := by
  cases taskMachine_step hstep with
  | @opened env error head _ hquery herror hstart hr =>
      rintro ⟨_, _, hle, hservice⟩ hunset hfrom first hasked
      have hnil := hone.fetches_eq_nil hquery
      cases hr with
      | ended hlt =>
          have : task.endBlock m head < task.startBlock head := hlt
          omega
      | noNodeService _ hnone =>
          rw [show env.hasNodeService task.group = false from hnone] at hservice
          cases hservice
      | fetch _ _ =>
          have hfailed := (h.progress first hasked).unanswered hnil hunset
          have hask := ((retries_append_singleton _ _).mp hretries).2 _ rfl first hfailed
          rw [LiveTask.startBlock, if_pos hunset, if_neg (by omega)] at hask
          apply hask
  | waiting _ _ hlt =>
      rintro ⟨_, hle, _⟩
      omega
  | queryFailed _ herror =>
      rintro ⟨hnot, _⟩
      rw [herror] at hnot
      cases hnot
  | _ => trivial

/-- When a task is visited only after its requests are answered, no block is skipped
throughout a run exactly when every batch opened while nothing is processed starts with the
block first asked for. -/
theorem exact_noneSkipped (m : Int) :
  Machine.Exact (taskMachine m)
    (fun o task => RetryInvariant o task.params.fromBlock task.cursor task.blockFetches
      ∧ OneRequest task)
    NoneSkipped (fun _ task a => Quiet task a) (StartsAgain m)
  := by
  constructor
  · rintro o task ⟨h, _⟩
    constructor
    · intro hnone
      apply (h.untouched hnone).processed
    · intro first hasked
      apply (h.progress first hasked).processed
    · apply h.retries
  · rintro o task a next out ⟨h, hone⟩ hquiet hC hstep
    constructor
    · apply h.step hone hC hstep
    · apply hone.step hquiet hstep
  · rintro o task a next out ⟨h, hone⟩ _ hstep hP
    apply h.startsAgain hone hstep hP.retries

/-! ### Runs of the module -/

namespace EventSub

variable (m : Int) (subscriptions : Nat → Subscription) (p : Nat)

/-- In a run of the module in which the worker visits a task only when its requests are
answered, the blocks the task has processed are those from the first one it asked for up to
its cursor, and a fetch that failed is made again, exactly when no batch that is opened while
nothing is processed starts with another block than the one first asked for. -/
theorem noneSkipped_iff {as : List EventSubAction}
    (hquiet : (eventSubMachine m).Along
      (fun _ s a => ∀ b ∈ actionOf p a, Quiet (s.heap p) b)
      [] (start subscriptions) as) :
  (eventSubMachine m).Throughout
      (fun o s => NoneSkipped (o.filterMap (outputOf p)) (s.heap p)) [] (start subscriptions) as
    ↔ (eventSubMachine m).Along
      (fun o s a => ∀ b ∈ actionOf p a,
        StartsAgain m (o.filterMap (outputOf p)) (s.heap p) b)
      [] (start subscriptions) as
  := by
  have hexact := (taskProjection m p).exact (exact_noneSkipped m)
  refine hexact.throughout_iff ⟨?_, ?_⟩ hquiet
  · apply RetryInvariant.start
  · apply Nat.zero_le 1

/-- The fetch of the first block fails, and the chain has grown before the next visit. -/
def failedFirstFetch : List EventSubAction :=
  let env : Env := ⟨fun _ => true, fun _ => true⟩
  [.subscribe, .executeAddTasks, .task 0 (.visit env), .task 0 (.blockNumber env none 5),
    .task 0 (.blockData env ⟨5, 5⟩ (some ⟨-1, "not found"⟩) ⟨none, [], []⟩),
    .task 0 (.visit env), .task 0 (.blockNumber env none 7),
    .task 0 (.blockData env ⟨7, 7⟩ none ⟨none, [], []⟩)]

theorem noneSkipped_iff_failedFirstFetch :
  (eventSubMachine 10).Throughout
      (fun o s => NoneSkipped (o.filterMap (outputOf 0)) (s.heap 0)) []
      (start fun _ => ⟨"1", "group0", ⟨0, ""⟩, {}⟩) failedFirstFetch
    ↔ (eventSubMachine 10).Along
      (fun o s a => ∀ b ∈ actionOf 0 a,
        StartsAgain 10 (o.filterMap (outputOf 0)) (s.heap 0) b)
      [] (start fun _ => ⟨"1", "group0", ⟨0, ""⟩, {}⟩) failedFirstFetch
  := noneSkipped_iff 10 (fun _ => ⟨"1", "group0", ⟨0, ""⟩, {}⟩) 0 (by decide)

/-- In the run of `failedFirstFetch` the block whose fetch fails is never processed. -/
theorem noneSkipped_counterexample :
  ¬ ∀ (m : Int) (subscriptions : Nat → Subscription) (p : Nat) (as : List EventSubAction),
    (eventSubMachine m).Along (fun _ s a => ∀ b ∈ actionOf p a, Quiet (s.heap p) b)
        [] (start subscriptions) as →
      (eventSubMachine m).Throughout
        (fun o s => NoneSkipped (o.filterMap (outputOf p)) (s.heap p)) [] (start subscriptions) as
  := by
  intro h
  have hthrough := h 10 (fun _ => ⟨"1", "group0", ⟨0, ""⟩, {}⟩) 0 failedFirstFetch (by decide)
  have hrun : ((eventSubMachine 10).run (start fun _ => ⟨"1", "group0", ⟨0, ""⟩, {}⟩)
      failedFirstFetch).map (fun r => (firstAsked (r.2.filterMap (outputOf 0)),
        processedBlocks (r.2.filterMap (outputOf 0)), (r.1.heap 0).cursor))
      = some (some 5, [7], 8) := by decide
  obtain ⟨⟨t, o⟩, hrun, heq⟩ := Option.map_eq_some_iff.mp hrun
  obtain ⟨hasked, heq⟩ := Prod.mk.inj heq
  obtain ⟨hprocessed, hcursor⟩ := Prod.mk.inj heq
  have hskip := Machine.throughout_iff_run.mp hthrough _ (List.prefix_refl _) t o hrun
  have hcovered := hskip.processed 5 hasked
  rw [List.nil_append, hprocessed, hcursor] at hcovered
  apply absurd hcovered (by decide)

end EventSub
