import BcosRpc.Event.EventSub
import BcosRpc.Event.Window

/-!
# Runs without overflow

The blocks of a task are computed from the heights of the chain that the ledger answers with. As
long as the block after each of them is an int64, no computation of a run overflows, whatever the
request asks for: a task takes the same steps in int64 arithmetic.
-/

/-- The step is no answer with a height that is the greatest int64. -/
def HeadFits : TaskAction → Prop
  | .blockNumber _ _ head => (head : Int) + 1 ≤ maxInt64
  | _ => True

instance (a : TaskAction) : Decidable (HeadFits a) :=
  match a with
  | .visit _ => isTrue trivial
  | .blockNumber .. => inferInstanceAs (Decidable (_ ≤ _))
  | .blockData .. => isTrue trivial

/-- The fetches in flight are for blocks of a chain, and the block after the last one of their
batch is an int64. -/
def FetchesFit (task : LiveTask) : Prop :=
  ∀ f ∈ task.blockFetches, 0 ≤ f.blockNumber ∧ f.blockNumber ≤ f.endBlockNumber
    ∧ f.endBlockNumber + 1 ≤ maxInt64

variable {m : Int} {task next : LiveTask} {a : TaskAction} {out : List TaskOutput}

theorem FetchesFit.continues {env : Env} {b e : Int} (h : FetchesFit task) (hb : 0 ≤ b)
    (he : e + 1 ≤ maxInt64) (hr : Continues env b e task (next, out)) :
  FetchesFit next
  := by
  cases hr with
  | ended _ => exact h
  | noNodeService _ _ => exact h
  | fetch hle _ =>
      intro f hf
      rcases List.mem_append.mp hf with hf | hf
      · apply h f hf
      · obtain rfl := List.mem_singleton.mp hf
        exact ⟨hb, hle, he⟩

theorem FetchesFit.removeFetch (h : FetchesFit task) (fetch : BlockFetch) :
  FetchesFit (task.removeFetch fetch)
  := fun f hf => h f (List.mem_of_mem_erase hf)

theorem FetchesFit.step (h : FetchesFit task) (hhead : HeadFits a)
    (hstep : (taskMachine m).step task a = some (next, out)) :
  FetchesFit next
  := by
  cases taskMachine_step hstep with
  | @opened env error head _ _ _ _ hr =>
      have hfits : (head : Int) + 1 ≤ maxInt64 := hhead
      have hlast := task.endBlock_le_head m head
      have hquery : FetchesFit (task.removeQuery.setWork true) := h
      apply hquery.continues _ _ hr
      · apply (task.startBlock_bounds head).1
      · omega
  | @fetchFailed _ fetch _ _ _ _ => exact h.removeFetch fetch
  | @fetched _ fetch _ _ _ _ hfetch _ hr =>
      obtain ⟨h0, _, hlast⟩ := h fetch hfetch
      have hnext : FetchesFit
          ((task.removeFetch fetch).setCurrentBlockNumber (fetch.blockNumber + 1)) :=
        h.removeFetch fetch
      apply hnext.continues _ hlast hr
      omega
  | _ => exact h

/-- Without overflow, a step is the one in int64 arithmetic. -/
theorem FetchesFit.step_eq (h : FetchesFit task) (hm : 1 ≤ m) (hhead : HeadFits a) :
  (taskMachine64 m).step task a = (taskMachine m).step task a
  := by
  cases a with
  | visit env => rfl
  | blockNumber env error head =>
      have hwindow : task.removeQuery.startBlock head ≤ head →
          task.removeQuery.endBlock64 m head = some (task.removeQuery.endBlock m head) := by
        intro hstart
        have hvalue := LiveTask.endBlock64_eq hm hhead
          (task.removeQuery.startBlock_bounds head).1 hstart
        rw [hvalue, LiveTask.endBlock64_sound hvalue]
      simp only [taskMachine64, taskMachine, LiveTask.onBlockNumber64, LiveTask.onBlockNumber,
        LiveTask.executeBatch64, LiveTask.executeBatch]
      split
      · split
        · rfl
        · split
          · rfl
          · rename_i hopens
            rw [hwindow (Int.not_lt.mp hopens), Option.map_some]
      · rfl
  | blockData env fetch error block =>
      simp only [taskMachine64, taskMachine, LiveTask.onBlockData64, LiveTask.onBlockData]
      split
      · rename_i hfetch
        obtain ⟨h0, hle, hlast⟩ := h fetch hfetch
        have hnext : IsInt64 (fetch.blockNumber + 1) := by
          simp only [IsInt64, minInt64, maxInt64] at hlast ⊢
          omega
        split
        · rfl
        · rw [checkedInt64_of_isInt64 hnext, Option.map_some]
      · rfl

/-- A task takes the same runs in int64 arithmetic. -/
theorem taskMachine64_run_eq (hm : 1 ≤ m) (sub : Subscription) {as : List TaskAction}
    (hheads : ∀ a ∈ as, HeadFits a) :
  (taskMachine64 m).run (LiveTask.ofSubscription sub) as
    = (taskMachine m).run (LiveTask.ofSubscription sub) as
  := by
  apply Machine.run_congr (I := FetchesFit) _ _ _ hheads
  · intro task a h hhead
    apply h.step_eq hm hhead
  · intro task a next out h hhead hstep
    apply h.step hhead hstep
  · intro f hf
    cases hf

namespace EventSub

/-- In a run of the module with batches of at least one block, in which the block after each height
that the ledger answers with is an int64, no task overflows: each takes its steps in int64
arithmetic. -/
theorem run_int64 (hm : 1 ≤ m) {subscriptions : Nat → Subscription} {as : List EventSubAction}
    {s : EventSub} {o : List (Nat × TaskOutput)}
    (hrun : (eventSubMachine m).run (start subscriptions) as = some (s, o))
    (hheads : ∀ p a, .task p a ∈ as → HeadFits a) (p : Nat) :
  (taskMachine64 m).run (LiveTask.ofSubscription (subscriptions p)) (as.filterMap (actionOf p))
    = some (s.heap p, o.filterMap (outputOf p))
  := by
  rw [taskMachine64_run_eq hm]
  · apply (taskProjection m p).run hrun
  · intro a ha
    obtain ⟨b, hb, hab⟩ := List.mem_filterMap.mp ha
    rw [actionOf_eq_some] at hab
    subst hab
    apply hheads p a hb

/-- A subscription to all blocks up to the greatest int64. -/
def allBlocks : Subscription :=
  ⟨"1", "group0", ⟨0, ""⟩, { toBlock := maxInt64 }⟩

/-- Its task sees the chain at the block before that one. -/
def seesGreatestHead : List EventSubAction :=
  let env : Env := ⟨fun _ => true, fun _ => true⟩
  [.subscribe, .executeAddTasks, .task 0 (.visit env),
    .task 0 (.blockNumber env none 9223372036854775806)]

theorem run_int64_seesGreatestHead :
  ∃ s o, (eventSubMachine 10).run (start fun _ => allBlocks) seesGreatestHead = some (s, o)
    ∧ (taskMachine64 10).run (LiveTask.ofSubscription allBlocks)
        (seesGreatestHead.filterMap (actionOf 0))
      = some (s.heap 0, o.filterMap (outputOf 0))
  := by
  have hsome : ((eventSubMachine 10).run (start fun _ => allBlocks) seesGreatestHead).isSome
      = true := by decide
  obtain ⟨⟨s, o⟩, hrun⟩ := Option.isSome_iff_exists.mp hsome
  refine ⟨s, o, hrun, run_int64 (by decide) hrun ?_ 0⟩
  intro p a ha
  simp only [seesGreatestHead, List.mem_cons, List.not_mem_nil, reduceCtorEq,
    EventSubAction.task.injEq, false_or, or_false] at ha
  rcases ha with ⟨_, rfl⟩ | ⟨_, rfl⟩ <;> decide

end EventSub
