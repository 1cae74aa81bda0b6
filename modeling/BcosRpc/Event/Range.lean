import BcosRpc.Event.Batch
import BcosRpc.Machine.Schedule

/-!
# The range of a bounded subscription

A request with `0 ≤ fromBlock ≤ toBlock` asks for the blocks of a range. The choice of the
first block takes a `fromBlock` of zero for no first block, the bound on a batch takes a
`toBlock` of zero for no last block, and the test for completion takes it for a last block.
`EventSub.coversRange_iff` says in which runs the blocks processed are those of the range, from
its first one on.
-/

/-- The blocks asked for, in order. -/
def askedBlocks (o : List TaskOutput) : List Int :=
  o.filterMap fun
    | .asyncGetBlockDataByNumber blockNumber => some blockNumber
    | _ => none

@[simp]
theorem askedBlocks_append (o o' : List TaskOutput) :
  askedBlocks (o ++ o') = askedBlocks o ++ askedBlocks o'
  := List.filterMap_append

@[simp]
theorem askedBlocks_pushed (env : Env) (block : Block) (task : LiveTask) :
  askedBlocks (task.pushed env block) = []
  := by
  rcases task.pushed_cases env block with h | ⟨jResp, h⟩
  · rw [h]
    rfl
  · rw [h]
    rfl

/-- The answer with a block number reaches the first block of the range, and finds a node
service. -/
def reaches (sub : Subscription) : TaskAction → Bool
  | .blockNumber env error head =>
      !Error.failed error && decide (sub.params.fromBlock ≤ head) && env.hasNodeService sub.group
  | _ => false

/-- The blocks processed are in the range and begin with its first one; `reached` tells that an
answer has reached it. -/
structure CoversRange (sub : Subscription) (o : List TaskOutput) (task : LiveTask)
    (reached : Bool) : Prop where
  within : ∀ b ∈ processedBlocks o, sub.params.fromBlock ≤ b ∧ b ≤ sub.params.toBlock
  first : ∀ b, (processedBlocks o).head? = some b → b = sub.params.fromBlock
  starts : reached = true → task.blockFetches = [] → processedBlocks o ≠ []

/-- The answer that reaches the range while nothing is processed opens a batch, since batches
are not empty, and opens it with the first block of the range, since that is not zero or is the
head. -/
def StartsRange (m : Int) (sub : Subscription) (task : LiveTask) : TaskAction → Prop
  | .blockNumber env error head => reaches sub (.blockNumber env error head) = true →
      task.cursor < 0 → 0 < m ∧ (0 < sub.params.fromBlock ∨ head = 0)
  | _ => True

/-- The step is no failed fetch. -/
def FetchSucceeds : TaskAction → Prop
  | .blockData _ _ error _ => Error.failed error = false
  | _ => True

instance (a : TaskAction) : Decidable (FetchSucceeds a) :=
  match a with
  | .visit _ => isTrue trivial
  | .blockNumber .. => isTrue trivial
  | .blockData .. => inferInstanceAs (Decidable (_ = _))

/-! ### Blocks asked for -/

/-- At most one request is unanswered, and the blocks asked for are those processed and the one
in flight. -/
structure Accounted (o : List TaskOutput) (task : LiveTask) : Prop where
  one : OneRequest task
  asked : askedBlocks o = processedBlocks o ++ task.blockFetches.map BlockFetch.blockNumber

theorem accounted_start (sub : Subscription) :
  Accounted [] (LiveTask.ofSubscription sub)
  := ⟨Nat.zero_le 1, rfl⟩

theorem Continues.asked_eq {env : Env} {b e : Int} {task next : LiveTask}
    {out : List TaskOutput} (h : Continues env b e task (next, out))
    (hnil : task.blockFetches = []) :
  processedBlocks out = []
    ∧ askedBlocks out = next.blockFetches.map BlockFetch.blockNumber
  := by
  cases h with
  | ended _ =>
      rw [LiveTask.blockFetches_setWork, hnil]
      exact ⟨rfl, rfl⟩
  | noNodeService _ _ =>
      rw [hnil]
      exact ⟨rfl, rfl⟩
  | fetch _ _ =>
      rw [LiveTask.blockFetches_addFetch, hnil]
      exact ⟨rfl, rfl⟩

theorem Accounted.step {m : Int} {o out : List TaskOutput} {task next : LiveTask}
    {a : TaskAction} (h : Accounted o task) (hquiet : Quiet task a) (hsucceeds : FetchSucceeds a)
    (hstep : (taskMachine m).step task a = some (next, out)) :
  Accounted (o ++ out) next
  := by
  use h.one.step hquiet hstep
  rw [askedBlocks_append, processedBlocks_append, h.asked]
  cases taskMachine_step hstep with
  | @opened env error head _ hquery herror hstart hr =>
      have hnil := h.one.fetches_eq_nil hquery
      obtain ⟨hprocessed, hasked⟩ := hr.asked_eq hnil
      rw [hprocessed, hasked, hnil]
      simp
  | fetchFailed _ herror =>
      rw [show Error.failed _ = false from hsucceeds] at herror
      cases herror
  | @fetched env fetch error block _ rest hfetch _ hr =>
      have honly := h.one.only hfetch
      have hnil : ((task.removeFetch fetch).setCurrentBlockNumber
          (fetch.blockNumber + 1)).blockFetches = [] := h.one.removeFetch hfetch
      obtain ⟨hprocessed, hasked⟩ := hr.asked_eq hnil
      rw [honly, askedBlocks_append, processedBlocks_append, askedBlocks_pushed,
        processedBlocks_pushed, processedBlocks_cons_processed, hprocessed,
        show askedBlocks (.processed fetch.blockNumber :: rest) = askedBlocks rest from rfl,
        hasked]
      simp
  | _ => simp [processedBlocks, askedBlocks, LiveTask.addQuery, LiveTask.removeQuery]

/-! ### The invariant -/

/-- The blocks asked for are in the range and begin with its first one. -/
structure AsksRange (sub : Subscription) (o : List TaskOutput) (reached : Bool) : Prop where
  within : ∀ b ∈ askedBlocks o, sub.params.fromBlock ≤ b ∧ b ≤ sub.params.toBlock
  first : ∀ b, (askedBlocks o).head? = some b → b = sub.params.fromBlock
  starts : reached = true → askedBlocks o ≠ []

/-- What is known of a task that asks for the blocks of its range: the cursor is behind the
first one when something is processed, not behind the last one when a query waits, and a batch
ends in the range. -/
structure RangeInvariant (sub : Subscription) (o : List TaskOutput) (task : LiveTask)
    (reached : Bool) : Prop where
  subscribed : task.toSubscription = sub
  accounted : Accounted o task
  asks : AsksRange sub o reached
  untouched : task.cursor < 0 → processedBlocks o = []
  begun : 0 ≤ task.cursor → processedBlocks o ≠ [] ∧ sub.params.fromBlock < task.cursor
  query : 0 < task.blockNumberQueries → task.cursor ≤ sub.params.toBlock
  fetch : ∀ f ∈ task.blockFetches, f.endBlockNumber ≤ sub.params.toBlock

theorem rangeInvariant_start (sub : Subscription) :
  RangeInvariant sub [] (LiveTask.ofSubscription sub) false
  := by
  constructor
  · rfl
  · apply accounted_start
  · constructor
    · exact nofun
    · exact nofun
    · exact nofun
  · intro _
    rfl
  · intro h
    have hunset : (LiveTask.ofSubscription sub).cursor = -1 := rfl
    omega
  · exact nofun
  · exact nofun

/-- The blocks asked for stay in the range when one of the range is asked for, the first one if
none was. -/
theorem AsksRange.ask {sub : Subscription} {o : List TaskOutput} {reached reached' : Bool}
    (h : AsksRange sub o reached) {b : Int}
    (hb : sub.params.fromBlock ≤ b ∧ b ≤ sub.params.toBlock)
    (hfirst : askedBlocks o = [] → b = sub.params.fromBlock) :
  AsksRange sub (o ++ [.asyncGetBlockDataByNumber b]) reached'
  := by
  have hasked : askedBlocks (o ++ [.asyncGetBlockDataByNumber b]) = askedBlocks o ++ [b] :=
    askedBlocks_append _ _
  constructor
  · intro b' hb'
    rw [hasked] at hb'
    rcases List.mem_append.mp hb' with hb' | hb'
    · apply h.within b' hb'
    · rw [List.mem_singleton.mp hb']
      apply hb
  · intro b' hb'
    rw [hasked] at hb'
    cases hold : askedBlocks o with
    | nil =>
        rw [hold] at hb'
        obtain rfl : b = b' := Option.some.inj hb'
        apply hfirst hold
    | cons c blocks =>
        rw [hold] at hb'
        obtain rfl : c = b' := Option.some.inj hb'
        apply h.first
        rw [hold]
        rfl
  · intro _ hnil
    rw [hasked] at hnil
    cases List.append_eq_nil_iff.mp hnil with
    | intro _ hnil => cases hnil

/-- Outputs that ask for no block change nothing, when an answer that reaches the range has
been preceded by a block asked for. -/
theorem AsksRange.idle {sub : Subscription} {o out : List TaskOutput} {reached reached' : Bool}
    (h : AsksRange sub o reached) (hout : askedBlocks out = [])
    (hreached : reached' = true → reached = true ∨ askedBlocks o ≠ []) :
  AsksRange sub (o ++ out) reached'
  := by
  have hasked : askedBlocks (o ++ out) = askedBlocks o := by
    rw [askedBlocks_append, hout, List.append_nil]
  constructor
  · rw [hasked]
    apply h.within
  · rw [hasked]
    apply h.first
  · intro hseen
    rw [hasked]
    rcases hreached hseen with hseen | hne
    · apply h.starts hseen
    · apply hne

theorem AsksRange.idle_of_not_reaches {sub : Subscription} {o out : List TaskOutput}
    {reached : Bool} {a : TaskAction} (h : AsksRange sub o reached) (hout : askedBlocks out = [])
    (ha : reaches sub a = false) :
  AsksRange sub (o ++ out) (reached || reaches sub a)
  := by
  apply h.idle hout
  intro hreached
  rw [ha, Bool.or_false] at hreached
  apply Or.inl hreached

section

variable {m : Int} {sub : Subscription} {o out : List TaskOutput} {task next : LiveTask}
  {reached : Bool}

/-- When something is processed, a block was asked for. -/
theorem RangeInvariant.asked_ne_nil (h : RangeInvariant sub o task reached)
    (hset : 0 ≤ task.cursor) :
  askedBlocks o ≠ []
  := by
  rw [h.accounted.asked]
  apply List.append_ne_nil_of_left_ne_nil (h.begun hset).1

/-- An answer that reaches the range while nothing is processed starts with its first block. -/
theorem RangeInvariant.startBlock_eq {env : Env} {error : Option Error} {head : Nat}
    (h : RangeInvariant sub o task reached) (h0 : 0 ≤ sub.params.fromBlock)
    (hC : StartsRange m sub task (.blockNumber env error head))
    (hreach : reaches sub (.blockNumber env error head) = true) (hunset : task.cursor < 0) :
  0 < m ∧ task.startBlock head = sub.params.fromBlock ∧ sub.params.fromBlock ≤ head
  := by
  have hparams : task.params = sub.params := congrArg Subscription.params h.subscribed
  obtain ⟨hm, hzero⟩ := hC hreach hunset
  have hhead : sub.params.fromBlock ≤ head := by
    simp only [reaches, Bool.and_eq_true, decide_eq_true_eq] at hreach
    apply hreach.1.2
  rw [LiveTask.startBlock, if_pos hunset, hparams]
  refine ⟨hm, ?_, hhead⟩
  split <;> omega

/-- The batch that an answer opens when the start of the range is heeded: it starts in the
range, with its first block when nothing is processed, and ends in the range. -/
theorem RangeInvariant.batch {env : Env} {error : Option Error} {head : Nat}
    (h : RangeInvariant sub o task reached)
    (hrange : 0 ≤ sub.params.fromBlock ∧ sub.params.fromBlock ≤ sub.params.toBlock)
    (hC : StartsRange m sub task (.blockNumber env error head))
    (hquery : 0 < task.blockNumberQueries) (herror : Error.failed error = false)
    (hstart : task.startBlock head ≤ head) (hservice : env.hasNodeService sub.group = true) :
  (sub.params.fromBlock ≤ task.startBlock head ∧ task.startBlock head ≤ sub.params.toBlock)
    ∧ (task.cursor < 0 → task.startBlock head = sub.params.fromBlock
      ∧ task.startBlock head ≤ task.endBlock m head)
    ∧ task.endBlock m head ≤ sub.params.toBlock
  := by
  obtain ⟨h0, hle⟩ := hrange
  have hparams : task.params = sub.params := congrArg Subscription.params h.subscribed
  by_cases hunset : task.cursor < 0
  · have hhead : sub.params.fromBlock ≤ head := by
      rw [LiveTask.startBlock, if_pos hunset, hparams] at hstart
      split at hstart <;> omega
    have hreach : reaches sub (.blockNumber env error head) = true := by
      simp [reaches, herror, hhead, hservice]
    obtain ⟨hm, heq, _⟩ := h.startBlock_eq h0 hC hreach hunset
    have hnonempty : task.startBlock head ≤ task.endBlock m head := by
      apply (LiveTask.startBlock_le_endBlock_iff hstart).mpr
      rw [hparams]
      exact ⟨hm, fun _ => by omega⟩
    use by omega, fun _ => ⟨heq, hnonempty⟩
    -- a last block of zero does not bound the batch, but then the head is zero too
    by_cases hto : 0 < sub.params.toBlock
    · rw [← hparams] at hto ⊢
      apply LiveTask.endBlock_le_toBlock m hto
    · have hlast := task.endBlock_le_head m head
      have hzero := (hC hreach hunset).2
      omega
  · have hcursor : task.startBlock head = task.cursor := by
      rw [LiveTask.startBlock, if_neg hunset]
    have hbegun := (h.begun (by omega)).2
    have hlast := h.query hquery
    use by omega, fun hset => absurd hset hunset
    have hto : 0 < task.params.toBlock := by
      rw [hparams]
      omega
    rw [← hparams]
    apply LiveTask.endBlock_le_toBlock m hto

/-- Steps that leave the cursor where it is and process nothing. -/
theorem RangeInvariant.unmoved {reached' : Bool} (h : RangeInvariant sub o task reached)
    (haccounted : Accounted (o ++ out) next) (hsub : next.toSubscription = task.toSubscription)
    (hcursor : next.cursor = task.cursor) (hprocessed : processedBlocks out = [])
    (hasks : AsksRange sub (o ++ out) reached')
    (hquery : 0 < next.blockNumberQueries → task.cursor ≤ sub.params.toBlock)
    (hfetch : ∀ f ∈ next.blockFetches, f.endBlockNumber ≤ sub.params.toBlock) :
  RangeInvariant sub (o ++ out) next reached'
  := by
  have hsame : processedBlocks (o ++ out) = processedBlocks o := by
    rw [processedBlocks_append, hprocessed, List.append_nil]
  constructor
  · rw [hsub, h.subscribed]
  · apply haccounted
  · apply hasks
  · rw [hcursor, hsame]
    apply h.untouched
  · rw [hcursor, hsame]
    apply h.begun
  · rw [hcursor]
    apply hquery
  · apply hfetch

/-- An answer to the query opens a batch in the range. -/
theorem RangeInvariant.opened {env : Env} {error : Option Error} {head : Nat}
    (h : RangeInvariant sub o task reached)
    (hrange : 0 ≤ sub.params.fromBlock ∧ sub.params.fromBlock ≤ sub.params.toBlock)
    (hC : StartsRange m sub task (.blockNumber env error head))
    (haccounted : Accounted (o ++ out) next) (hquery : 0 < task.blockNumberQueries)
    (herror : Error.failed error = false) (hstart : task.startBlock head ≤ head)
    (hr : Continues env (task.startBlock head) (task.endBlock m head)
      (task.removeQuery.setWork true) (next, out)) :
  RangeInvariant sub (o ++ out) next (reached || reaches sub (.blockNumber env error head))
  := by
  have hgroup : task.group = sub.group := congrArg Subscription.group h.subscribed
  have hlast := h.query hquery
  cases hr with
  | ended hlt =>
      apply h.unmoved haccounted rfl rfl rfl _ (fun _ => hlast) h.fetch
      apply h.asks.idle rfl
      intro hreached
      rcases Bool.or_eq_true_iff.mp hreached with hreached | hreach
      · apply Or.inl hreached
      · apply Or.inr
        apply h.asked_ne_nil
        by_contra hunset
        have hservice : env.hasNodeService sub.group = true := by
          simp only [reaches, Bool.and_eq_true] at hreach
          apply hreach.2
        have hnonempty := ((h.batch hrange hC hquery herror hstart hservice).2.1
          (by omega)).2
        omega
  | noNodeService _ hnone =>
      apply h.unmoved haccounted rfl rfl rfl _ (fun _ => hlast) h.fetch
      apply h.asks.idle_of_not_reaches rfl
      have hservice : env.hasNodeService sub.group = false := by
        rw [← hgroup]
        apply hnone
      rw [reaches, hservice, Bool.and_false]
  | fetch _ hservice =>
      have hfound : env.hasNodeService sub.group = true := by
        rw [← hgroup]
        apply hservice
      obtain ⟨hstartIn, hfirst, hend⟩ := h.batch hrange hC hquery herror hstart hfound
      apply h.unmoved haccounted rfl rfl rfl _ (fun _ => hlast)
      · intro f hf
        rcases List.mem_append.mp hf with hf | hf
        · apply h.fetch f hf
        · rw [List.mem_singleton.mp hf]
          apply hend
      · apply h.asks.ask hstartIn
        intro hnil
        apply (hfirst _).1
        by_contra hset
        apply h.asked_ne_nil (by omega) hnil

/-- The block of the fetch in flight is processed, and the next one of the batch is asked for. -/
theorem RangeInvariant.fetched {env : Env} {fetch : BlockFetch} {error : Option Error}
    {block : Block} {rest : List TaskOutput} (h : RangeInvariant sub o task reached)
    (h0 : 0 ≤ sub.params.fromBlock)
    (haccounted : Accounted
      (o ++ (task.pushed env block ++ .processed fetch.blockNumber :: rest)) next)
    (hfetch : fetch ∈ task.blockFetches)
    (hr : Continues env (fetch.blockNumber + 1) fetch.endBlockNumber
      ((task.removeFetch fetch).setCurrentBlockNumber (fetch.blockNumber + 1)) (next, rest)) :
  RangeInvariant sub (o ++ (task.pushed env block ++ .processed fetch.blockNumber :: rest)) next
    (reached || reaches sub (.blockData env fetch error block))
  := by
  have honly := h.accounted.one.only hfetch
  have hblock := h.asks.within fetch.blockNumber (by
    rw [h.accounted.asked, honly]
    simp)
  have hend := h.fetch fetch hfetch
  have hqueries := h.accounted.one.queries_eq_zero hfetch
  have hcursor : next.cursor = max task.cursor (fetch.blockNumber + 1) := by
    rw [← LiveTask.cursor_removeFetch task fetch, ← LiveTask.cursor_setCurrentBlockNumber]
    cases hr <;> rfl
  have hasks : AsksRange sub (o ++ (task.pushed env block ++ [.processed fetch.blockNumber]))
      (reached || reaches sub (.blockData env fetch error block)) := by
    apply h.asks.idle_of_not_reaches _ rfl
    rw [askedBlocks_append, askedBlocks_pushed]
    rfl
  have hprocessed : processedBlocks (o ++ (task.pushed env block
      ++ .processed fetch.blockNumber :: rest)) ≠ [] := by
    rw [processedBlocks_append, processedBlocks_append, processedBlocks_cons_processed]
    simp
  constructor
  · rw [show next.toSubscription = task.toSubscription by cases hr <;> rfl, h.subscribed]
  · apply haccounted
  · rw [← List.singleton_append, ← List.append_assoc, ← List.append_assoc,
      List.append_assoc o]
    cases hr with
    | ended _ => exact hasks.idle rfl Or.inl
    | noNodeService _ _ => exact hasks.idle rfl Or.inl
    | fetch hle _ =>
        apply hasks.ask (by omega)
        intro hnil
        rw [askedBlocks_append, h.accounted.asked, honly] at hnil
        simp at hnil
  · intro hunset
    omega
  · intro _
    exact ⟨hprocessed, by omega⟩
  · intro hquery
    have hsame : next.blockNumberQueries = task.blockNumberQueries := by cases hr <;> rfl
    omega
  · intro f hf
    cases hr with
    | ended _ =>
        apply h.fetch f (List.mem_of_mem_erase hf)
    | noNodeService _ _ =>
        apply h.fetch f (List.mem_of_mem_erase hf)
    | fetch _ _ =>
        rcases List.mem_append.mp hf with hf | hf
        · apply h.fetch f (List.mem_of_mem_erase hf)
        · rw [List.mem_singleton.mp hf]
          apply hend

theorem RangeInvariant.step {a : TaskAction} (h : RangeInvariant sub o task reached)
    (hrange : 0 ≤ sub.params.fromBlock ∧ sub.params.fromBlock ≤ sub.params.toBlock)
    (hquiet : Quiet task a) (hsucceeds : FetchSucceeds a) (hC : StartsRange m sub task a)
    (hstep : (taskMachine m).step task a = some (next, out)) :
  RangeInvariant sub (o ++ out) next (reached || reaches sub a)
  := by
  have haccounted := h.accounted.step hquiet hsucceeds hstep
  have htask := taskMachine_step hstep
  have hsub := htask.toSubscription_eq
  have hparams : task.params = sub.params := congrArg Subscription.params h.subscribed
  cases htask with
  | asked hcompleted _ _ =>
      apply h.unmoved haccounted hsub rfl rfl
      · apply h.asks.idle_of_not_reaches rfl rfl
      · intro _
        rw [← hparams]
        apply LiveTask.cursor_le_of_not_completed hcompleted
        rw [hparams]
        omega
      · apply h.fetch
  | queryFailed hquery herror =>
      apply h.unmoved haccounted hsub rfl rfl
      · apply h.asks.idle_of_not_reaches rfl
        rw [reaches, herror]
        rfl
      · intro _
        apply h.query hquery
      · apply h.fetch
  | @waiting env error head hquery herror hlt =>
      apply h.unmoved haccounted hsub rfl rfl
      · apply h.asks.idle rfl
        intro hreached
        rcases Bool.or_eq_true_iff.mp hreached with hreached | hreach
        · apply Or.inl hreached
        · apply Or.inr
          apply h.asked_ne_nil
          by_contra hunset
          obtain ⟨_, heq, hhead⟩ := h.startBlock_eq hrange.1 hC hreach (by omega)
          omega
      · intro _
        apply h.query hquery
      · apply h.fetch
  | opened hquery herror hstart hr =>
      apply h.opened hrange hC haccounted hquery herror hstart hr
  | fetchFailed _ herror =>
      rw [show Error.failed _ = false from hsucceeds] at herror
      cases herror
  | fetched hfetch _ hr => exact h.fetched hrange.1 haccounted hfetch hr
  | _ =>
      apply h.unmoved haccounted hsub rfl rfl
      · apply h.asks.idle_of_not_reaches rfl rfl
      · apply h.query
      · apply h.fetch

/-- An answer that reaches the range while nothing is processed, and leads to a first block that
is not the one of the range, or to none, breaks the range. -/
theorem RangeInvariant.startsRange {a : TaskAction} (h : RangeInvariant sub o task reached)
    (h0 : 0 ≤ sub.params.fromBlock)
    (hstep : (taskMachine m).step task a = some (next, out))
    (hasks : AsksRange sub (o ++ out) (reached || reaches sub a)) :
  StartsRange m sub task a
  := by
  cases a with
  | blockNumber env error head =>
      intro hreach hunset
      have hparams : task.params = sub.params := congrArg Subscription.params h.subscribed
      have hgroup : task.group = sub.group := congrArg Subscription.group h.subscribed
      have hstarts := hasks.starts (by rw [hreach, Bool.or_true])
      simp only [reaches, Bool.and_eq_true, Bool.not_eq_true', decide_eq_true_eq] at hreach
      obtain ⟨⟨herror, hhead⟩, hservice⟩ := hreach
      obtain ⟨hquery, _⟩ := Option.ite_none_right_eq_some.mp hstep
      have hnil : askedBlocks o = [] := by
        rw [h.accounted.asked, h.untouched hunset, h.accounted.one.fetches_eq_nil hquery]
        rfl
      rw [askedBlocks_append, hnil] at hstarts
      have hstart : task.startBlock head
          = if sub.params.fromBlock > 0 then sub.params.fromBlock else (head : Int) := by
        rw [LiveTask.startBlock, if_pos hunset, hparams]
      cases taskMachine_step hstep with
      | queryFailed _ hfailed =>
          rw [herror] at hfailed
          cases hfailed
      | waiting _ _ hlt => exact absurd rfl hstarts
      | opened _ _ hle hr =>
          cases hr with
          | ended _ => exact absurd rfl hstarts
          | noNodeService _ _ => exact absurd rfl hstarts
          | fetch hnonempty _ =>
              have hm := ((LiveTask.startBlock_le_endBlock_iff hle).mp hnonempty).1
              have hfirst : task.startBlock head = sub.params.fromBlock := by
                apply hasks.first
                rw [askedBlocks_append, hnil]
                rfl
              use hm
              split at hstart <;> omega
  | _ => trivial

end

/-- A task whose fetches succeed asks for the blocks of its range throughout a run exactly when
the answers that reach the range start it. -/
theorem exact_asksRange (m : Int) {sub : Subscription}
    (hrange : 0 ≤ sub.params.fromBlock ∧ sub.params.fromBlock ≤ sub.params.toBlock) :
  Machine.Exact ((taskMachine m).remember (reaches sub))
    (fun o s => RangeInvariant sub o s.1 s.2) (fun o s => AsksRange sub o s.2)
    (fun _ s a => Quiet s.1 a ∧ FetchSucceeds a) (fun _ s a => StartsRange m sub s.1 a)
  := by
  constructor
  · intro o s h
    apply h.asks
  · rintro o ⟨task, reached⟩ a ⟨next, seen⟩ out h ⟨hquiet, hsucceeds⟩ hC hstep
    obtain ⟨hstep, hseen⟩ := Machine.remember_step.mp hstep
    obtain rfl : (reached || reaches sub a) = seen := hseen
    apply h.step hrange hquiet hsucceeds hC hstep
  · rintro o ⟨task, reached⟩ a ⟨next, seen⟩ out h _ hstep hP
    obtain ⟨hstep, hseen⟩ := Machine.remember_step.mp hstep
    obtain rfl : (reached || reaches sub a) = seen := hseen
    apply h.startsRange hrange.1 hstep hP

/-! ### Complete runs -/

/-- The blocks processed are in the range and begin with its first one when those asked for
are and do. -/
theorem Accounted.coversRange {sub : Subscription} {o : List TaskOutput} {task : LiveTask}
    {reached : Bool} (h : Accounted o task) (hasks : AsksRange sub o reached) :
  CoversRange sub o task reached
  := by
  constructor
  · intro b hb
    apply hasks.within
    rw [h.asked]
    apply List.mem_append_left _ hb
  · intro b hb
    apply hasks.first
    rw [h.asked, List.head?_append, hb]
    rfl
  · intro hreached hnil hnone
    apply hasks.starts hreached
    rw [h.asked, hnone, hnil]
    rfl

/-- When the run goes on to a state in which no block is in flight, and the blocks processed up
to there are in the range and begin with its first one, the blocks asked for are and do. -/
theorem Accounted.asksRange {sub : Subscription} {o later : List TaskOutput}
    {task last : LiveTask} {reached reached' : Bool} (h : Accounted o task)
    (hcovers : CoversRange sub o task reached) (hlast : Accounted (o ++ later) last)
    (hnil : last.blockFetches = []) (hcovers' : CoversRange sub (o ++ later) last reached') :
  AsksRange sub o reached
  := by
  have hasked : askedBlocks o ++ askedBlocks later = processedBlocks (o ++ later) := by
    rw [← askedBlocks_append, hlast.asked, hnil, List.map_nil, List.append_nil]
  constructor
  · intro b hb
    apply hcovers'.within
    rw [← hasked]
    apply List.mem_append_left _ hb
  · intro b hb
    apply hcovers'.first
    rw [← hasked, List.head?_append, hb]
    rfl
  · intro hreached hnone
    rw [h.asked, List.append_eq_nil_iff, List.map_eq_nil_iff] at hnone
    apply hcovers.starts hreached hnone.2 hnone.1

/-! ### Runs of the module -/

namespace EventSub

variable (m : Int) (subscriptions : Nat → Subscription) (p : Nat)

/-- The step is an answer that reaches the first block of the range of a task. -/
def reachesRange (a : EventSubAction) : Bool := (actionOf p a).any (reaches (subscriptions p))

variable {m subscriptions p}

/-- The blocks a task has asked for, in a run in which its fetches succeed. -/
theorem accounted_run {as : List EventSubAction}
    (hquiet : (eventSubMachine m).Along
      (fun _ s a => ∀ b ∈ actionOf p a, Quiet (s.heap p) b ∧ FetchSucceeds b)
      [] (start subscriptions) as) :
  (eventSubMachine m).Throughout
    (fun o s => Accounted (o.filterMap (outputOf p)) (s.heap p)) [] (start subscriptions) as
  := by
  apply hquiet.invariant
  · intro o s a t e hI hC hstep
    apply (taskProjection m p).keep (I := Accounted) (o := o)
      (C := fun _ task b => Quiet task b ∧ FetchSucceeds b) _ hI hC hstep
    intro o task a next out hI hC hstep
    apply hI.step hC.1 hC.2 hstep
  · apply accounted_start

/-- In a run of the module in which the worker visits a task only when its requests are
answered, the fetches of the task succeed, and none is in flight at the end, the blocks
processed lie in the range requested and begin with its first one as soon as an answer reaches
it, exactly when, at each answer that reaches it while nothing is processed, batches are not
empty, and the first block is not zero or the head is. -/
theorem coversRange_iff {as : List EventSubAction} {t : EventSub} {o : List (Nat × TaskOutput)}
    (hrange : 0 ≤ (subscriptions p).params.fromBlock
      ∧ (subscriptions p).params.fromBlock ≤ (subscriptions p).params.toBlock)
    (hquiet : (eventSubMachine m).Along
      (fun _ s a => ∀ b ∈ actionOf p a, Quiet (s.heap p) b ∧ FetchSucceeds b)
      [] (start subscriptions) as)
    (hrun : (eventSubMachine m).run (start subscriptions) as = some (t, o))
    (hcomplete : (t.heap p).blockFetches = []) :
  (∀ bs, bs <+: as → ∀ s e, (eventSubMachine m).run (start subscriptions) bs = some (s, e) →
      CoversRange (subscriptions p) (e.filterMap (outputOf p)) (s.heap p)
        (bs.any (reachesRange subscriptions p)))
    ↔ (eventSubMachine m).Along
      (fun _ s a => ∀ b ∈ actionOf p a, StartsRange m (subscriptions p) (s.heap p) b)
      [] (start subscriptions) as
  := by
  have haccounted := Machine.throughout_iff_run.mp (accounted_run hquiet)
  have hexact := ((taskProjection m p).remember (reaches (subscriptions p))).exact
    (exact_asksRange m hrange)
  have hiff : ((eventSubMachine m).remember (reachesRange subscriptions p)).Throughout
      (fun o s => AsksRange (subscriptions p) (o.filterMap (outputOf p)) s.2) []
      (start subscriptions, false) as
      ↔ ((eventSubMachine m).remember (reachesRange subscriptions p)).Along
        (fun _ s a => ∀ b ∈ actionOf p a, StartsRange m (subscriptions p) (s.1.heap p) b) []
        (start subscriptions, false) as := by
    apply hexact.throughout_iff
    · apply rangeInvariant_start
    · apply (Machine.along_remember_iff (C := fun _ (s : EventSub) a =>
        ∀ b ∈ actionOf p a, Quiet (s.heap p) b ∧ FetchSucceeds b)).mpr hquiet
  rw [Machine.throughout_remember_iff, Machine.along_remember_iff (C := fun _ (s : EventSub) a =>
    ∀ b ∈ actionOf p a, StartsRange m (subscriptions p) (s.heap p) b)] at hiff
  rw [← hiff]
  constructor
  · intro h bs hbs s e hbsrun
    obtain ⟨cs, rfl⟩ := hbs
    obtain ⟨s', e', o', hbsrun', hrest, rfl⟩ := (Machine.run_append _).mp hrun
    rw [hbsrun] at hbsrun'
    obtain ⟨rfl, rfl⟩ := Prod.mk.inj (Option.some.inj hbsrun')
    have hend := haccounted _ (List.prefix_refl _) t _ hrun
    have hcovers := h _ (List.prefix_refl _) t _ hrun
    rw [List.nil_append, List.filterMap_append] at hend
    rw [List.filterMap_append] at hcovers
    apply (haccounted bs (List.prefix_append _ _) s e hbsrun).asksRange
      (h bs (List.prefix_append _ _) s e hbsrun) hend hcomplete hcovers
  · intro h bs hbs s e hbsrun
    apply (haccounted bs hbs s e hbsrun).coversRange (h bs hbs s e hbsrun)

/-- A subscription for the blocks `fromBlock` to `5`. -/
def upToFive (fromBlock : Int) : Subscription :=
  ⟨"1", "group0", ⟨0, ""⟩, { fromBlock, toBlock := 5 }⟩

/-- The task is visited, the chain has the height `head`, and the blocks from `head` to `5` are
fetched. -/
def fetchUpToFive (head : Nat) : List EventSubAction :=
  let env : Env := ⟨fun _ => true, fun _ => true⟩
  [.subscribe, .executeAddTasks, .task 0 (.visit env), .task 0 (.blockNumber env none head),
    .task 0 (.blockData env ⟨head, min head 5⟩ none ⟨none, [], []⟩)]

theorem coversRange_iff_fetchUpToFive :
  (∀ bs, bs <+: fetchUpToFive 5 → ∀ s e,
      (eventSubMachine 10).run (start fun _ => upToFive 5) bs = some (s, e) →
        CoversRange (upToFive 5) (e.filterMap (outputOf 0)) (s.heap 0)
          (bs.any (reachesRange (fun _ => upToFive 5) 0)))
    ↔ (eventSubMachine 10).Along
      (fun _ s a => ∀ b ∈ actionOf 0 a, StartsRange 10 (upToFive 5) (s.heap 0) b)
      [] (start fun _ => upToFive 5) (fetchUpToFive 5)
  := by
  have hrun : ((eventSubMachine 10).run (start fun _ => upToFive 5) (fetchUpToFive 5)).map
      (fun r => (r.1.heap 0).blockFetches) = some [] := by decide
  obtain ⟨⟨t, o⟩, hrun, hcomplete⟩ := Option.map_eq_some_iff.mp hrun
  apply coversRange_iff (p := 0) (by decide) (by decide) hrun hcomplete

/-- A subscription from block `0` on a chain of height `3` begins with block `3`. -/
theorem coversRange_counterexample :
  ¬ ∀ (m : Int) (subscriptions : Nat → Subscription) (p : Nat) (as : List EventSubAction)
      (t : EventSub) (o : List (Nat × TaskOutput)),
    0 < m →
    0 ≤ (subscriptions p).params.fromBlock
      ∧ (subscriptions p).params.fromBlock ≤ (subscriptions p).params.toBlock →
    (eventSubMachine m).Along
      (fun _ s a => ∀ b ∈ actionOf p a, Quiet (s.heap p) b ∧ FetchSucceeds b)
      [] (start subscriptions) as →
    (eventSubMachine m).run (start subscriptions) as = some (t, o) →
    (t.heap p).blockFetches = [] →
      ∀ bs, bs <+: as → ∀ s e,
        (eventSubMachine m).run (start subscriptions) bs = some (s, e) →
          CoversRange (subscriptions p) (e.filterMap (outputOf p)) (s.heap p)
            (bs.any (reachesRange subscriptions p))
  := by
  intro h
  have hrun : ((eventSubMachine 10).run (start fun _ => upToFive 0) (fetchUpToFive 3)).map
      (fun r => ((r.1.heap 0).blockFetches, processedBlocks (r.2.filterMap (outputOf 0))))
      = some ([], [3]) := by decide
  obtain ⟨⟨t, o⟩, hrun, heq⟩ := Option.map_eq_some_iff.mp hrun
  obtain ⟨hcomplete, hprocessed⟩ := Prod.mk.inj heq
  have hcovers := h 10 (fun _ => upToFive 0) 0 (fetchUpToFive 3) t o (by decide) (by decide)
    (by decide) hrun hcomplete _ (List.prefix_refl _) t o hrun
  have hfirst := hcovers.first 3 (by rw [hprocessed]; rfl)
  apply absurd hfirst (by decide)

end EventSub
