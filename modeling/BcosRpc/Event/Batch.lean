import BcosRpc.Event.EventSub
import Mathlib.Data.Int.Order.Basic

/-!
# Order of the processed blocks

A batch of a task is in flight while a fetch of it is unanswered. A task processes its blocks
in increasing order, and has one batch at a time, exactly in the runs in which no answer with
a block number opens a batch while another one is in flight.
-/

/-- The blocks processed, in order. -/
def processedBlocks (o : List TaskOutput) : List Int :=
  o.filterMap fun
    | .processed blockNumber => some blockNumber
    | _ => none

@[simp]
theorem processedBlocks_append (o o' : List TaskOutput) :
  processedBlocks (o ++ o') = processedBlocks o ++ processedBlocks o'
  := List.filterMap_append

@[simp]
theorem processedBlocks_cons_processed (b : Int) (o : List TaskOutput) :
  processedBlocks (.processed b :: o) = b :: processedBlocks o
  := rfl

/-- The messages for a block are no processed blocks. -/
@[simp]
theorem processedBlocks_pushed (env : Env) (block : Block) (task : LiveTask) :
  processedBlocks (task.pushed env block) = []
  := by
  rcases task.pushed_cases env block with h | ⟨jResp, h⟩
  · rw [h]
    rfl
  · rw [h]
    rfl

/-- At most one batch is in flight, and the blocks are processed once and in increasing
order. -/
structure InOrder (o : List TaskOutput) (task : LiveTask) : Prop where
  one_batch : task.blockFetches.length ≤ 1
  once : (processedBlocks o).Nodup
  increasing : (processedBlocks o).Pairwise (· < ·)

/-- An answer with a block number opens a batch: it reports no error, the block to start from
exists, the batch is not empty, and the group has a node service. -/
def Opens (m : Int) (env : Env) (error : Option Error) (head : Nat) (task : LiveTask) : Prop :=
  Error.failed error = false ∧ task.startBlock head ≤ head
    ∧ task.startBlock head ≤ task.endBlock m head ∧ env.hasNodeService task.group = true

/-- The step does not open a batch while another one is in flight. -/
def OpensAlone (m : Int) (task : LiveTask) : TaskAction → Prop
  | .blockNumber env error head => Opens m env error head task → task.blockFetches = []
  | _ => True

/-! ### The invariant -/

/-- Every processed block is below the cursor, a fetched one is not. -/
structure BatchInvariant (blocks : List Int) (cursor : Int) (fetches : List BlockFetch) :
    Prop where
  one_batch : fetches.length ≤ 1
  increasing : blocks.Pairwise (· < ·)
  below : ∀ b ∈ blocks, b < cursor
  fetch : ∀ f ∈ fetches, 0 ≤ f.blockNumber ∧ cursor ≤ f.blockNumber

namespace BatchInvariant

variable {m : Int} {env : Env} {blocks : List Int} {cursor : Int} {fetches : List BlockFetch}

theorem start (cursor : Int) :
  BatchInvariant [] cursor []
  := by
  constructor <;> simp

/-- A fetch that fails is no longer in flight. -/
theorem failed (h : BatchInvariant blocks cursor fetches) (f : BlockFetch) :
  BatchInvariant blocks cursor (fetches.erase f)
  := by
  constructor
  · apply le_trans List.length_erase_le h.one_batch
  · apply h.increasing
  · apply h.below
  · intro f' hf'
    apply h.fetch f' (List.mem_of_mem_erase hf')

/-- A fetch that is answered with a block is no longer in flight, and the block is the next
one processed. -/
theorem processed {f : BlockFetch} (h : BatchInvariant blocks cursor fetches)
    (hf : f ∈ fetches) :
  fetches.erase f = []
    ∧ BatchInvariant (blocks ++ [f.blockNumber]) (max cursor (f.blockNumber + 1)) []
  := by
  obtain ⟨h0, hcursor⟩ := h.fetch f hf
  have hbelow : ∀ b ∈ blocks, b < f.blockNumber := by
    intro b hb
    apply lt_of_lt_of_le (h.below b hb) hcursor
  constructor
  · apply List.eq_nil_of_length_eq_zero
    rw [List.length_erase_of_mem hf]
    have hone := h.one_batch
    omega
  · constructor
    · simp
    · rw [List.pairwise_append]
      use h.increasing, List.pairwise_singleton _ _
      intro a ha b hb
      rw [List.mem_singleton] at hb
      subst hb
      apply hbelow a ha
    · intro b hb
      rcases List.mem_append.mp hb with hb | hb
      · have hlt := hbelow b hb
        omega
      · rw [List.mem_singleton] at hb
        omega
    · simp

/-- When nothing is in flight, a batch continues with a block that is not below the cursor. -/
theorem continues (task : LiveTask) {next : LiveTask} {b e : Int} {out : List TaskOutput}
    (h : BatchInvariant blocks task.cursor task.blockFetches)
    (halone : b ≤ e → env.hasNodeService task.group = true → task.blockFetches = [])
    (hb : 0 ≤ b ∧ task.cursor ≤ b) (hr : Continues env b e task (next, out)) :
  BatchInvariant blocks next.cursor next.blockFetches ∧ processedBlocks out = []
  := by
  cases hr with
  | ended _ => exact ⟨h, rfl⟩
  | noNodeService _ _ => exact ⟨h, rfl⟩
  | fetch hle hservice =>
      refine ⟨⟨?_, h.increasing, h.below, ?_⟩, rfl⟩
      · simp [halone hle hservice]
      · intro f hf
        rw [LiveTask.blockFetches_addFetch, halone hle hservice] at hf
        obtain rfl := List.mem_singleton.mp hf
        apply hb

theorem step {o : List TaskOutput} {task next : LiveTask} {a : TaskAction}
    {out : List TaskOutput}
    (h : BatchInvariant (processedBlocks o) task.cursor task.blockFetches)
    (hC : OpensAlone m task a) (hstep : (taskMachine m).step task a = some (next, out)) :
  BatchInvariant (processedBlocks (o ++ out)) next.cursor next.blockFetches
  := by
  have hidle (h' : processedBlocks out = []) :
      processedBlocks (o ++ out) = processedBlocks o := by
    rw [processedBlocks_append, h', List.append_nil]
  cases taskMachine_step hstep with
  | @opened env error head _ hquery herror hstart hr =>
      have hbounds := task.startBlock_bounds head
      obtain ⟨hnext, hout⟩ := continues (task.removeQuery.setWork true) h
        (fun hle hservice => hC ⟨herror, hstart, hle, hservice⟩) hbounds hr
      rw [hidle hout]
      apply hnext
  | fetchFailed _ _ =>
      rw [hidle rfl]
      apply h.failed
  | @fetched env fetch error block _ rest hfetch herror hr =>
      have hbounds := h.fetch fetch hfetch
      obtain ⟨hnil, hprocessed⟩ := h.processed hfetch
      have hlater : BatchInvariant (processedBlocks o ++ [fetch.blockNumber])
          ((task.removeFetch fetch).setCurrentBlockNumber (fetch.blockNumber + 1)).cursor
          ((task.removeFetch fetch).setCurrentBlockNumber (fetch.blockNumber + 1)).blockFetches := by
        simpa [hnil] using hprocessed
      obtain ⟨hnext, hout⟩ := hlater.continues _ (fun _ _ => hnil) (by simp; omega) hr
      simpa [hout, List.append_assoc] using hnext
  | _ =>
      rw [hidle rfl]
      apply h

end BatchInvariant

/-- A step that opens a batch beside another one has two of them in flight. -/
theorem opensAlone_of_one_batch {m : Int} {task next : LiveTask} {a : TaskAction}
    {out : List TaskOutput} (hstep : (taskMachine m).step task a = some (next, out))
    (hone : next.blockFetches.length ≤ 1) :
  OpensAlone m task a
  := by
  cases taskMachine_step hstep with
  | @opened env error head _ hquery herror hstart hr =>
      rintro ⟨_, _, hle, hservice⟩
      cases hr with
      | ended hlt =>
          have : task.endBlock m head < task.startBlock head := hlt
          omega
      | noNodeService _ hnone =>
          rw [show env.hasNodeService task.group = false from hnone] at hservice
          cases hservice
      | fetch _ _ =>
          rw [LiveTask.blockFetches_addFetch, List.length_append, List.length_singleton] at hone
          apply List.eq_nil_of_length_eq_zero
          rw [LiveTask.blockFetches_setWork, LiveTask.blockFetches_removeQuery] at hone
          omega
  | waiting _ _ hlt =>
      rintro ⟨_, hle, _⟩
      omega
  | queryFailed _ herror =>
      rintro ⟨hnot, _⟩
      rw [herror] at hnot
      cases hnot
  | _ => trivial

/-- A task is in order throughout a run exactly when no batch is opened beside another. -/
theorem exact_inOrder (m : Int) :
  Machine.Exact (taskMachine m)
    (fun o task => BatchInvariant (processedBlocks o) task.cursor task.blockFetches) InOrder
    (fun _ _ _ => True) (fun _ task a => OpensAlone m task a)
  := by
  constructor
  · intro o task h
    constructor
    · apply h.one_batch
    · apply h.increasing.imp
      intro a b hab
      apply ne_of_lt hab
    · apply h.increasing
  · intro o task a next out h _ hC hstep
    apply h.step hC hstep
  · intro o task a next out _ _ hstep hP
    apply opensAlone_of_one_batch hstep hP.one_batch

/-! ### Visits that wait for the answers -/

/-- The worker visits the task only when every request of it is answered. -/
def Quiet (task : LiveTask) : TaskAction → Prop
  | .visit _ => task.blockNumberQueries = 0 ∧ task.blockFetches = []
  | _ => True

instance (task : LiveTask) (a : TaskAction) : Decidable (Quiet task a) :=
  match a with
  | .visit _ => inferInstanceAs (Decidable (_ ∧ _))
  | .blockNumber .. => isTrue trivial
  | .blockData .. => isTrue trivial

/-- At most one request of the task is unanswered. -/
def OneRequest (task : LiveTask) : Prop :=
  task.blockNumberQueries + task.blockFetches.length ≤ 1

/-- A fetch that is unanswered is the only one. -/
theorem OneRequest.only {task : LiveTask} (h : OneRequest task) {fetch : BlockFetch}
    (hfetch : fetch ∈ task.blockFetches) :
  task.blockFetches = [fetch]
  := by
  have hpos := List.length_pos_of_mem hfetch
  rw [OneRequest] at h
  obtain ⟨f, hf⟩ := List.length_eq_one_iff.mp (show task.blockFetches.length = 1 by omega)
  rw [hf, List.mem_singleton] at hfetch
  rw [hf, hfetch]

/-- While a query waits, no fetch is in flight. -/
theorem OneRequest.fetches_eq_nil {task : LiveTask} (h : OneRequest task)
    (hquery : 0 < task.blockNumberQueries) :
  task.blockFetches = []
  := by
  rw [OneRequest] at h
  apply List.eq_nil_of_length_eq_zero
  omega

/-- While a fetch is in flight, no query waits. -/
theorem OneRequest.queries_eq_zero {task : LiveTask} (h : OneRequest task) {fetch : BlockFetch}
    (hfetch : fetch ∈ task.blockFetches) :
  task.blockNumberQueries = 0
  := by
  have honly := h.only hfetch
  rw [OneRequest, honly, List.length_singleton] at h
  omega

/-- When the fetch in flight is answered, none is in flight. -/
theorem OneRequest.removeFetch {task : LiveTask} (h : OneRequest task) {fetch : BlockFetch}
    (hfetch : fetch ∈ task.blockFetches) :
  (task.removeFetch fetch).blockFetches = []
  := LiveTask.blockFetches_removeFetch_of_eq (h.only hfetch)

/-- When the query that waits is answered, none waits. -/
theorem OneRequest.removeQuery {task : LiveTask} (h : OneRequest task) :
  task.removeQuery.blockNumberQueries = 0
  := by
  rw [OneRequest] at h
  rw [LiveTask.blockNumberQueries_removeQuery]
  omega

theorem oneRequest_of_none {task : LiveTask} (hquery : task.blockNumberQueries = 0)
    (hfetch : task.blockFetches = []) :
  OneRequest task
  := by
  rw [OneRequest, hquery, hfetch]
  apply Nat.zero_le 1

theorem OneRequest.continues {env : Env} {task next : LiveTask} {b e : Int}
    {out : List TaskOutput} (hquery : task.blockNumberQueries = 0)
    (hfetch : task.blockFetches = []) (hr : Continues env b e task (next, out)) :
  OneRequest next
  := by
  cases hr with
  | ended _ => exact oneRequest_of_none hquery hfetch
  | noNodeService _ _ => exact oneRequest_of_none hquery hfetch
  | fetch _ _ => simp [OneRequest, hquery, hfetch]

theorem OneRequest.step {m : Int} {task next : LiveTask} {a : TaskAction}
    {out : List TaskOutput} (h : OneRequest task) (hquiet : Quiet task a)
    (hstep : (taskMachine m).step task a = some (next, out)) :
  OneRequest next
  := by
  cases taskMachine_step hstep with
  | asked _ _ _ =>
      obtain ⟨hquery, hfetch⟩ := hquiet
      simp [OneRequest, hquery, hfetch]
  | queryFailed hquery _ => exact oneRequest_of_none h.removeQuery (h.fetches_eq_nil hquery)
  | waiting hquery _ _ => exact oneRequest_of_none h.removeQuery (h.fetches_eq_nil hquery)
  | opened hquery _ _ hr =>
      refine OneRequest.continues ?_ ?_ hr
      · apply h.removeQuery
      · apply h.fetches_eq_nil hquery
  | fetchFailed hfetch _ =>
      exact oneRequest_of_none (h.queries_eq_zero hfetch) (h.removeFetch hfetch)
  | fetched hfetch _ hr =>
      refine OneRequest.continues ?_ ?_ hr
      · apply h.queries_eq_zero hfetch
      · apply h.removeFetch hfetch
  | _ => apply h

/-- When only one request is unanswered, a batch is opened while none is in flight. -/
theorem OneRequest.opensAlone {m : Int} {task next : LiveTask} {a : TaskAction}
    {out : List TaskOutput} (h : OneRequest task)
    (hstep : (taskMachine m).step task a = some (next, out)) :
  OpensAlone m task a
  := by
  cases a with
  | blockNumber env error head =>
      intro _
      obtain ⟨hquery, _⟩ := Option.ite_none_right_eq_some.mp hstep
      apply h.fetches_eq_nil hquery
  | _ => trivial

/-! ### Runs of the module -/

namespace EventSub

variable (m : Int) (subscriptions : Nat → Subscription) (p : Nat)

/-- In a run of the module, the blocks of a task are processed once and in increasing order,
in one batch at a time, exactly when no answer with a block number opens a batch of the task
while another one is in flight. -/
theorem inOrder_iff (as : List EventSubAction) :
  (eventSubMachine m).Throughout
      (fun o s => InOrder (o.filterMap (outputOf p)) (s.heap p)) [] (start subscriptions) as
    ↔ (eventSubMachine m).Along
      (fun _ s a => ∀ b ∈ actionOf p a, OpensAlone m (s.heap p) b)
      [] (start subscriptions) as
  := by
  have hexact := (taskProjection m p).exact (exact_inOrder m)
  apply hexact.throughout_iff
  · apply BatchInvariant.start
  · apply Machine.along_of_forall
    intro o s a b hb
    trivial

/-- In a run in which the worker visits a task only when its requests are answered, the blocks
of the task are processed in order. -/
theorem inOrder_of_quiet {as : List EventSubAction}
    (h : (eventSubMachine m).Along
      (fun _ s a => ∀ b ∈ actionOf p a, Quiet (s.heap p) b)
      [] (start subscriptions) as) :
  (eventSubMachine m).Throughout
    (fun o s => InOrder (o.filterMap (outputOf p)) (s.heap p)) [] (start subscriptions) as
  := by
  have hexact := (taskProjection m p).exact (exact_inOrder m)
  refine (hexact.throughout_iff ?_ ?_).mpr ?_
  · apply BatchInvariant.start
  · apply Machine.along_of_forall
    intro o s a b hb
    trivial
  · apply h.imp (I := fun _ s => OneRequest (s.heap p))
    · intro o s a t e hI hC hstep
      apply (taskProjection m p).keep (I := fun _ task => OneRequest task) (o := o)
        (C := fun _ task b => Quiet task b) (fun hI hC => hI.step hC) hI hC hstep
    · intro o s a t e hI _ hstep b hb
      apply hI.opensAlone ((taskProjection m p).step hb hstep)
    · show OneRequest (LiveTask.ofSubscription _)
      apply Nat.zero_le 1

/-- Two visits before the answer to the first one, and the answers to the queries and fetches
they lead to. -/
def overtakingVisits : List EventSubAction :=
  let env : Env := ⟨fun _ => true, fun _ => true⟩
  [.subscribe, .executeAddTasks, .task 0 (.visit env), .task 0 (.visit env),
    .task 0 (.blockNumber env none 5), .task 0 (.blockNumber env none 5),
    .task 0 (.blockData env ⟨5, 5⟩ none ⟨none, [], []⟩),
    .task 0 (.blockData env ⟨5, 5⟩ none ⟨none, [], []⟩)]

/-- In the run of `overtakingVisits` a block is processed twice. -/
theorem inOrder_counterexample :
  ¬ ∀ (m : Int) (subscriptions : Nat → Subscription) (p : Nat) (as : List EventSubAction),
    (eventSubMachine m).Throughout
      (fun o s => InOrder (o.filterMap (outputOf p)) (s.heap p)) [] (start subscriptions) as
  := by
  intro h
  have hthrough := h 10 (fun _ => ⟨"1", "group0", ⟨0, ""⟩, {}⟩) 0 overtakingVisits
  have hrun : ((eventSubMachine 10).run (start fun _ => ⟨"1", "group0", ⟨0, ""⟩, {}⟩)
      overtakingVisits).map (fun r => processedBlocks (r.2.filterMap (outputOf 0)))
      = some [5, 5] := by decide
  obtain ⟨⟨t, o⟩, hrun, hblocks⟩ := Option.map_eq_some_iff.mp hrun
  have horder := Machine.throughout_iff_run.mp hthrough _ (List.prefix_refl _) t o hrun
  have honce := horder.once
  rw [List.nil_append, show processedBlocks (o.filterMap (outputOf 0)) = [5, 5] from hblocks]
    at honce
  apply absurd honce (by decide)

end EventSub
