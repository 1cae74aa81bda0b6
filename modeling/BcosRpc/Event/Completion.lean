import BcosRpc.Event.Cancel
import BcosRpc.Event.Retry

/-!
# Completed tasks

A task with a last block is complete once that block is processed, and sends `PUSH_COMPLETED`
at its next visit. `Tracked` is what is known of a task that is visited only after its queries
of the block number are answered: when the message is sent, the blocks from the first one it
has processed up to the last one requested are processed in order.
-/

/-- Whether `PUSH_COMPLETED` is among the outputs. -/
def sent (o : List TaskOutput) : Bool :=
  o.any fun
    | .pushCompleted .. => true
    | _ => false

@[simp]
theorem sent_append (o o' : List TaskOutput) :
  sent (o ++ o') = (sent o || sent o')
  := List.any_append

/-- What a task does before and after it sends `PUSH_COMPLETED`: it sends the message at no
other time, it has processed the blocks from a first one up to the last one requested, once and
in ascending order, and it pushes nothing afterwards. -/
structure Completion (toBlock : Int) (before after : List TaskOutput) : Prop where
  once : sent before = false ∧ sent after = false
  complete : ∃ first ≤ toBlock, processedBlocks before = blocksFrom first (toBlock + 1)
  last : NoEffect after

def CompletesOnce (toBlock : Int) (o : List TaskOutput) : Prop :=
  ∀ before session id after, o = before ++ .pushCompleted session id :: after →
    Completion toBlock before after

/-- The worker visits the task only when every query of the block number is answered. -/
def Answered (task : LiveTask) : TaskAction → Prop
  | .visit _ => task.blockNumberQueries = 0
  | _ => True

instance (task : LiveTask) (a : TaskAction) : Decidable (Answered task a) :=
  match a with
  | .visit _ => inferInstanceAs (Decidable (_ = _))
  | .blockNumber .. => isTrue trivial
  | .blockData .. => isTrue trivial

/-! ### The blocks of a task -/

/-- What is known of a task with a last block: the flag is set while a fetch is in flight, the
blocks processed are those from a first one up to the cursor, and a fetch is for the block at
the cursor, in a batch that ends at the last block or before it. -/
structure Tracked (o : List TaskOutput) (task : LiveTask) : Prop where
  bounded : 0 < task.params.toBlock
  one : OneRequest task
  working : task.blockFetches ≠ [] → task.work = true
  untouched : task.cursor < 0 → processedBlocks o = []
  begun : 0 ≤ task.cursor →
    ∃ first < task.cursor, processedBlocks o = blocksFrom first task.cursor
  fetch : ∀ f ∈ task.blockFetches, (0 ≤ f.blockNumber ∧ f.blockNumber ≤ f.endBlockNumber)
    ∧ (task.cursor < 0 ∨ f.blockNumber = task.cursor) ∧ f.endBlockNumber ≤ task.params.toBlock
  cursor : task.cursor ≤ task.params.toBlock + 1

namespace Tracked

variable {m : Int} {o out : List TaskOutput} {task next : LiveTask}

theorem start {sub : Subscription} (h : 0 < sub.params.toBlock) :
  Tracked [] (LiveTask.ofSubscription sub)
  := by
  have hcursor : (LiveTask.ofSubscription sub).cursor = -1 := rfl
  have hto : (LiveTask.ofSubscription sub).params.toBlock = sub.params.toBlock := rfl
  constructor
  · apply h
  · apply Nat.zero_le 1
  · intro hne
    apply absurd rfl hne
  · intro _
    rfl
  · intro hset
    omega
  · exact nofun
  · omega

/-- A step that leaves the cursor where it is, makes no fetch and processes nothing. -/
theorem unmoved (h : Tracked o task) (hsub : next.toSubscription = task.toSubscription)
    (hcursor : next.cursor = task.cursor) (hout : processedBlocks out = [])
    (hone : OneRequest next) (hworking : next.blockFetches ≠ [] → next.work = true)
    (hfetches : ∀ f ∈ next.blockFetches, f ∈ task.blockFetches) :
  Tracked (o ++ out) next
  := by
  have hparams : next.params = task.params := congrArg Subscription.params hsub
  have hsame : processedBlocks (o ++ out) = processedBlocks o := by
    rw [processedBlocks_append, hout, List.append_nil]
  constructor
  · rw [hparams]
    apply h.bounded
  · apply hone
  · apply hworking
  · rw [hcursor, hsame]
    apply h.untouched
  · rw [hcursor, hsame]
    apply h.begun
  · intro f hf
    rw [hcursor, hparams]
    apply h.fetch f (hfetches f hf)
  · rw [hcursor, hparams]
    apply h.cursor

/-- When nothing is in flight, a batch continues with the block at the cursor, or with any
block when nothing is processed. -/
theorem continues {env : Env} {b e : Int} (h : Tracked o task)
    (hquery : task.blockNumberQueries = 0) (hnil : task.blockFetches = [])
    (hwork : task.work = true) (hb : 0 ≤ b ∧ (task.cursor < 0 ∨ b = task.cursor))
    (he : e ≤ task.params.toBlock) (hr : Continues env b e task (next, out)) :
  Tracked (o ++ out) next
  := by
  have hone := OneRequest.continues hquery hnil hr
  cases hr with
  | ended _ =>
      refine h.unmoved rfl rfl rfl hone ?_ fun f hf => hf
      intro hne
      apply absurd hnil hne
  | noNodeService _ _ => exact h.unmoved rfl rfl rfl hone h.working fun f hf => hf
  | fetch hle _ =>
      have hsame : processedBlocks (o ++ [.asyncGetBlockDataByNumber b]) = processedBlocks o :=
        by simp [processedBlocks]
      constructor
      · apply h.bounded
      · apply hone
      · intro _
        apply hwork
      · rw [hsame]
        apply h.untouched
      · rw [hsame]
        apply h.begun
      · intro f hf
        rw [LiveTask.blockFetches_addFetch, hnil] at hf
        obtain rfl := List.mem_singleton.mp hf
        exact ⟨⟨hb.1, hle⟩, hb.2, he⟩
      · apply h.cursor

/-- The block of a fetch that is answered is the next one processed. -/
theorem processed (h : Tracked o task) {f : BlockFetch} (hf : f ∈ task.blockFetches) :
  Tracked (o ++ [.processed f.blockNumber])
    ((task.removeFetch f).setCurrentBlockNumber (f.blockNumber + 1))
  := by
  obtain ⟨⟨h0, hle⟩, hcursor, hend⟩ := h.fetch f hf
  have hmoved : ((task.removeFetch f).setCurrentBlockNumber (f.blockNumber + 1)).cursor
      = f.blockNumber + 1 := by
    rw [LiveTask.cursor_setCurrentBlockNumber, LiveTask.cursor_removeFetch]
    omega
  have hnil : ((task.removeFetch f).setCurrentBlockNumber (f.blockNumber + 1)).blockFetches
      = [] := h.one.removeFetch hf
  have hblocks : ∃ first ≤ f.blockNumber,
      processedBlocks o = blocksFrom first f.blockNumber := by
    rcases hcursor with hunset | hcursor
    · use f.blockNumber, Int.le_refl _
      rw [h.untouched hunset, blocksFrom_of_le (Int.le_refl _)]
    · obtain ⟨first, hlt, hprocessed⟩ := h.begun (by omega)
      use first, by omega
      rw [hcursor, hprocessed]
  constructor
  · apply h.bounded
  · exact oneRequest_of_none (h.one.queries_eq_zero hf) hnil
  · intro hne
    apply absurd hnil hne
  · rw [hmoved]
    intro hunset
    omega
  · intro _
    obtain ⟨first, hfirst, hprocessed⟩ := hblocks
    rw [hmoved]
    use first, by omega
    rw [processedBlocks_append, hprocessed, blocksFrom_succ hfirst]
    rfl
  · rw [hnil]
    intro f hf
    cases hf
  · rw [hmoved]
    show f.blockNumber + 1 ≤ task.params.toBlock + 1
    omega

/-- A task that is not working has nothing in flight. -/
theorem fetches_eq_nil (h : Tracked o task) (hwork : task.work = false) :
  task.blockFetches = []
  := by
  by_contra hne
  rw [h.working hne] at hwork
  cases hwork

theorem one_step {a : TaskAction} (h : Tracked o task) (hanswered : Answered task a)
    (hstep : (taskMachine m).step task a = some (next, out)) :
  OneRequest next
  := by
  cases a with
  | visit env =>
      cases taskMachine_step hstep with
      | asked _ hwork _ =>
          have hquiet : Quiet task (.visit env) := ⟨hanswered, h.fetches_eq_nil hwork⟩
          apply h.one.step hquiet hstep
      | _ => apply h.one
  | blockNumber env error head =>
      have hquiet : Quiet task (.blockNumber env error head) := trivial
      apply h.one.step hquiet hstep
  | blockData env fetch error block =>
      have hquiet : Quiet task (.blockData env fetch error block) := trivial
      apply h.one.step hquiet hstep

theorem step {a : TaskAction} (h : Tracked o task) (hanswered : Answered task a)
    (hstep : (taskMachine m).step task a = some (next, out)) :
  Tracked (o ++ out) next
  := by
  have hone := h.one_step hanswered hstep
  cases taskMachine_step hstep with
  | @opened env error head _ hquery herror hstart hr =>
      have hnil := h.one.fetches_eq_nil hquery
      have hnone : (task.removeQuery.setWork true).blockNumberQueries = 0 := h.one.removeQuery
      have hopen : Tracked (o ++ []) (task.removeQuery.setWork true) :=
        h.unmoved rfl rfl rfl (oneRequest_of_none hnone hnil) (fun _ => rfl) fun f hf => hf
      rw [List.append_nil] at hopen
      refine hopen.continues hnone hnil rfl ⟨(task.startBlock_bounds head).1, ?_⟩
        (LiveTask.endBlock_le_toBlock m h.bounded head) hr
      by_cases hunset : task.cursor < 0
      · apply Or.inl hunset
      · apply Or.inr
        rw [LiveTask.startBlock, if_neg hunset]
        rfl
  | fetchFailed hfetch _ =>
      refine h.unmoved rfl rfl rfl hone ?_ fun f hf => List.mem_of_mem_erase hf
      intro hne
      apply absurd (h.one.removeFetch hfetch) hne
  | @fetched env fetch error block _ rest hfetch _ hr =>
      obtain ⟨⟨h0, _⟩, hcursor, hend⟩ := h.fetch fetch hfetch
      have hpushed : Tracked (o ++ task.pushed env block) task :=
        h.unmoved rfl rfl (processedBlocks_pushed env block task) h.one h.working fun f hf => hf
      have hprocessed := hpushed.processed hfetch
      rw [← List.singleton_append, ← List.append_assoc, ← List.append_assoc]
      refine hprocessed.continues ?_ ?_ (h.working (List.ne_nil_of_mem hfetch)) ?_ hend hr
      · apply h.one.queries_eq_zero hfetch
      · apply h.one.removeFetch hfetch
      · rw [LiveTask.cursor_setCurrentBlockNumber, LiveTask.cursor_removeFetch]
        omega
  | _ => exact h.unmoved rfl rfl rfl hone h.working fun f hf => hf

/-- A complete task has processed the last block and has nothing in flight. -/
theorem of_completed (h : Tracked o task) (hcompleted : task.isCompleted = true) :
  task.blockFetches = []
    ∧ ∃ first ≤ task.params.toBlock,
      processedBlocks o = blocksFrom first (task.params.toBlock + 1)
  := by
  have hbounded := h.bounded
  have hlast := h.cursor
  have hcursor : task.cursor = task.params.toBlock + 1 := by
    rw [EventSubTask.isCompleted, if_neg (by omega), decide_eq_true_eq] at hcompleted
    have hlt : task.params.toBlock < task.cursor := hcompleted
    omega
  constructor
  · rw [List.eq_nil_iff_forall_not_mem]
    intro f hf
    obtain ⟨⟨_, hle⟩, hblock, hend⟩ := h.fetch f hf
    omega
  · obtain ⟨first, hlt, hprocessed⟩ := h.begun (by omega)
    rw [hcursor] at hlt hprocessed
    exact ⟨first, by omega, hprocessed⟩

end Tracked

/-! ### The completion among the outputs -/

theorem sent_pushed (env : Env) (block : Block) (task : LiveTask) :
  sent (task.pushed env block) = false
  := by
  rcases task.pushed_cases env block with h | ⟨jResp, h⟩
  · rw [h]
    rfl
  · rw [h]
    rfl

theorem Continues.sent_eq_false {env : Env} {b e : Int} {task next : LiveTask}
    {out : List TaskOutput} (h : Continues env b e task (next, out)) :
  sent out = false
  := by
  cases h <;> rfl

/-- `PUSH_COMPLETED` is sent by the visit to a complete task, and by no other step. -/
theorem TaskStep.sent_cases {m : Int} {task next : LiveTask} {a : TaskAction}
    {out : List TaskOutput} (h : TaskStep m task a (next, out)) :
  sent out = false
    ∨ (∃ env, a = .visit env) ∧ task.isCompleted = true ∧ next = task
      ∧ out = [.unsubscribeEventSub task.id, .pushCompleted task.session task.id]
  := by
  cases h with
  | completed _ hcompleted => exact Or.inr ⟨⟨_, rfl⟩, hcompleted, rfl, rfl⟩
  | opened _ _ _ hr => exact Or.inl hr.sent_eq_false
  | fetched _ _ hr =>
      apply Or.inl
      rw [← List.singleton_append, sent_append, sent_append, sent_pushed, hr.sent_eq_false]
      rfl
  | _ => exact Or.inl rfl

/-- The last output is `PUSH_COMPLETED`, sent for the first time. -/
def Ended (toBlock : Int) (o : List TaskOutput) : Prop :=
  ∃ before session id, o = before ++ [.pushCompleted session id] ∧ sent before = false
    ∧ ∃ first ≤ toBlock, processedBlocks before = blocksFrom first (toBlock + 1)

theorem completesOnce_of_not_sent {toBlock : Int} {o : List TaskOutput} (h : sent o = false) :
  CompletesOnce toBlock o
  := by
  rintro before session id after rfl
  rw [← List.singleton_append, sent_append, sent_append] at h
  simp [sent] at h

theorem Ended.sent_eq_true {toBlock : Int} {o : List TaskOutput} (h : Ended toBlock o) :
  sent o = true
  := by
  obtain ⟨before, session, id, rfl, _⟩ := h
  simp [sent]

theorem Ended.completesOnce {toBlock : Int} {o : List TaskOutput} (h : Ended toBlock o) :
  CompletesOnce toBlock o
  := by
  obtain ⟨before, session, id, rfl, hnot, hcomplete⟩ := h
  intro before' session' id' after heq
  rcases List.eq_nil_or_concat after with rfl | ⟨after, x, rfl⟩
  · obtain ⟨rfl, _⟩ := List.append_inj' heq rfl
    exact ⟨⟨hnot, rfl⟩, hcomplete, nofun⟩
  · rw [List.concat_eq_append, ← List.cons_append, ← List.append_assoc] at heq
    obtain ⟨rfl, _⟩ := List.append_inj' heq rfl
    rw [sent_append] at hnot
    simp [sent] at hnot

/-- A task that sends `PUSH_COMPLETED` has processed its blocks. -/
theorem Tracked.ended {o : List TaskOutput} {task : LiveTask} (h : Tracked o task)
    (hnot : sent o = false) (hcompleted : task.isCompleted = true) (session : WsSession)
    (id : String) :
  Ended task.params.toBlock (o ++ [.unsubscribeEventSub task.id, .pushCompleted session id])
  := by
  refine ⟨o ++ [.unsubscribeEventSub task.id], session, id, ?_, ?_, ?_⟩
  · rw [List.append_assoc]
    rfl
  · rw [sent_append, hnot]
    rfl
  · rw [processedBlocks_append]
    simpa [processedBlocks] using (h.of_completed hcompleted).2
