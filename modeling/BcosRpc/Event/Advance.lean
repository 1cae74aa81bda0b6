import BcosRpc.Event.Batch

/-!
# Iterations that advance a task

In an iteration the worker visits a task with no batch in flight, the ledger answers with the
head of the chain, and the blocks of the batch this opens are fetched. `advances_iff` says when
every iteration moves the cursor, so that a task with a last block is complete after finitely
many of them: a batch is empty when its first block is behind the last one requested.
-/

/-- The step is the answer to a fetch, without an error, and the group has a node service. -/
def Fetched (group : String) : TaskAction → Prop
  | .blockData env _ error _ => Error.failed error = false ∧ env.hasNodeService group = true
  | _ => False

/-- An iteration for a task, with the answer `head` and all fetches successful. -/
inductive Iterates (m : Int) (head : Nat) (task next : LiveTask) : Prop where
  | run {visit answer : Env} {error : Option Error} {fetches : List TaskAction}
      {out : List TaskOutput} (hconn : visit.isConnected task.session = true)
      (hvisit : visit.hasNodeService task.group = true)
      (hanswer : answer.hasNodeService task.group = true) (herror : Error.failed error = false)
      (hfetched : ∀ a ∈ fetches, Fetched task.group a)
      (hrun : (taskMachine m).run task
        (.visit visit :: .blockNumber answer error head :: fetches) = some (next, out))
      (hdone : next.blockFetches = [])

variable {m : Int} {task next : LiveTask}

/-! ### One iteration -/

/-- Nothing is fetched when nothing is in flight. -/
theorem eq_of_run_fetched {group : String} {fetches : List TaskAction}
    {out : List TaskOutput} (hnil : task.blockFetches = [])
    (hfetched : ∀ a ∈ fetches, Fetched group a)
    (hrun : (taskMachine m).run task fetches = some (next, out)) :
  next = task
  := by
  cases fetches with
  | nil =>
      obtain ⟨rfl, _⟩ := Prod.mk.inj (Option.some.inj hrun)
      rfl
  | cons a fetches =>
      obtain ⟨_, _, _, hstep, _, _⟩ := (Machine.run_cons _).mp hrun
      cases taskMachine_step hstep with
      | fetchFailed hfetch _ =>
          rw [hnil] at hfetch
          cases hfetch
      | fetched hfetch _ _ =>
          rw [hnil] at hfetch
          cases hfetch
      | _ => cases hfetched _ List.mem_cons_self

/-- The fetches of a batch move the cursor behind its last block. -/
theorem run_fetched {fetches : List TaskAction} {out : List TaskOutput} {b e : Int}
    (hbatch : task.blockFetches = [⟨b, e⟩]) (hb : task.cursor ≤ b) (hle : b ≤ e)
    (hfetched : ∀ a ∈ fetches, Fetched task.group a)
    (hrun : (taskMachine m).run task fetches = some (next, out))
    (hdone : next.blockFetches = []) :
  next.cursor = e + 1 ∧ next.work = false ∧ next.toSubscription = task.toSubscription
  := by
  induction fetches generalizing task b out with
  | nil =>
      obtain ⟨rfl, _⟩ := Prod.mk.inj (Option.some.inj hrun)
      rw [hbatch] at hdone
      cases hdone
  | cons a fetches ih =>
      obtain ⟨t, _, _, hstep, hrest, _⟩ := (Machine.run_cons _).mp hrun
      have hlater : ∀ a ∈ fetches, Fetched task.group a :=
        fun a ha => hfetched a (List.mem_cons_of_mem _ ha)
      have hthis := hfetched _ List.mem_cons_self
      have htask := taskMachine_step hstep
      have hsub : t.toSubscription = task.toSubscription := htask.toSubscription_eq
      cases htask with
      | @fetched env fetch error block _ _ hfetch _ hr =>
          rw [hbatch, List.mem_singleton] at hfetch
          subst hfetch
          have hcursor : ((task.removeFetch ⟨b, e⟩).setCurrentBlockNumber (b + 1)).cursor
              = b + 1 := by
            rw [LiveTask.cursor_setCurrentBlockNumber, LiveTask.cursor_removeFetch]
            omega
          have hnil : ((task.removeFetch ⟨b, e⟩).setCurrentBlockNumber (b + 1)).blockFetches
              = [] := LiveTask.blockFetches_removeFetch_of_eq hbatch
          cases hr with
          | ended hlt =>
              have hended : (((task.removeFetch ⟨b, e⟩).setCurrentBlockNumber
                  (b + 1)).setWork false).blockFetches = [] := hnil
              have heq := eq_of_run_fetched hended hlater hrest
              have hlast : e = b := by
                have : e < b + 1 := hlt
                omega
              rw [heq, hlast]
              exact ⟨hcursor, rfl, hsub⟩
          | noNodeService _ hnone =>
              have hfound := hthis.2
              rw [show env.hasNodeService task.group = false from hnone] at hfound
              cases hfound
          | fetch hmore _ =>
              have hbatch' : (((task.removeFetch ⟨b, e⟩).setCurrentBlockNumber
                  (b + 1)).addFetch ⟨b + 1, e⟩).blockFetches = [⟨b + 1, e⟩] := by
                rw [LiveTask.blockFetches_addFetch, hnil, List.nil_append]
              obtain ⟨hlast, hwork, hsame⟩ := ih hbatch' hcursor.le hmore hlater hrest
              exact ⟨hlast, hwork, hsame.trans hsub⟩
      | fetchFailed _ herror =>
          rw [hthis.1] at herror
          cases herror
      | _ => cases hthis

/-- The state an iteration leaves. -/
structure Advanced (m : Int) (head : Nat) (task next : LiveTask) : Prop where
  subscription : next.toSubscription = task.toSubscription
  work : next.work = false
  fetches : next.blockFetches = []
  cursor : next.cursor
    = if task.startBlock head ≤ task.endBlock m head then task.endBlock m head + 1
      else task.cursor

/-- A task with no batch in flight that is not complete: `work` is not set, and no fetch waits for
an answer. A task that was cancelled in a batch for want of a node service keeps `work` set, and no
batch of it follows. -/
structure Idle (task : LiveTask) : Prop where
  completed : task.isCompleted = false
  work : task.work = false
  fetches : task.blockFetches = []

/-- The visit of an idle task asks for the head of the chain. -/
theorem Idle.visit_eq (h : Idle task) {visit : Env}
    (hconn : visit.isConnected task.session = true)
    (hvisit : visit.hasNodeService task.group = true) :
  (taskMachine m).step task (.visit visit) = some (task.addQuery, [.asyncGetBlockNumber])
  := by
  have hconnected : task.checkConnAvailable visit = true := by
    simp [LiveTask.checkConnAvailable, LiveTask.callback, LiveTask.sendEvents, hconn, Json.size]
  show some (task.executeEventSubTask visit) = _
  rw [LiveTask.executeEventSubTask, hconnected, h.completed, h.work, hvisit]
  rfl

/-- The answer to the query opens a batch. -/
theorem answer_eq {head : Nat} {answer : Env} {error : Option Error}
    (herror : Error.failed error = false) (hstart : task.startBlock head ≤ head) :
  (taskMachine m).step task.addQuery (.blockNumber answer error head)
    = some ((task.setWork true).process answer (task.startBlock head) (task.endBlock m head))
  := by
  have hquery : 0 < task.addQuery.blockNumberQueries := Nat.succ_pos _
  have hopen : task.addQuery.removeQuery.onBlockNumber m answer error head
      = (task.setWork true).process answer (task.startBlock head) (task.endBlock m head) := by
    rw [LiveTask.onBlockNumber, if_neg (by rw [herror]; exact Bool.false_ne_true),
      LiveTask.executeBatch]
    apply if_neg (Int.not_lt.mpr hstart)
  show (if 0 < task.addQuery.blockNumberQueries then
    some (task.addQuery.removeQuery.onBlockNumber m answer error head) else none) = _
  rw [if_pos hquery, hopen]

/-- What an iteration does to an idle task. -/
theorem Iterates.advanced {head : Nat} (h : Iterates m head task next) (hidle : Idle task)
    (hstart : task.startBlock head ≤ head) :
  Advanced m head task next
  := by
  obtain @⟨visit, answer, error, fetches, out, hconn, hvisit, hanswer, herror, hfetched, hrun,
    hdone⟩ := h
  obtain ⟨_, _, _, hvisited, hrun, _⟩ := (Machine.run_cons _).mp hrun
  rw [hidle.visit_eq hconn hvisit] at hvisited
  obtain ⟨rfl, _⟩ := Prod.mk.inj (Option.some.inj hvisited)
  obtain ⟨opened, _, _, hanswered, hrun, _⟩ := (Machine.run_cons _).mp hrun
  rw [answer_eq herror hstart] at hanswered
  have hcontinues := (task.setWork true).process_continues answer (task.startBlock head)
    (task.endBlock m head)
  rw [Option.some.inj hanswered] at hcontinues
  cases hcontinues with
  | ended hlt =>
      have hnil : ((task.setWork true).setWork false).blockFetches = [] := hidle.fetches
      obtain rfl := eq_of_run_fetched hnil hfetched hrun
      constructor
      · rfl
      · rfl
      · apply hnil
      · rw [if_neg (Int.not_le.mpr hlt)]
        rfl
  | noNodeService _ hnone =>
      rw [show answer.hasNodeService task.group = false from hnone] at hanswer
      cases hanswer
  | fetch hle _ =>
      have hbatch : ((task.setWork true).addFetch
          ⟨task.startBlock head, task.endBlock m head⟩).blockFetches
          = [⟨task.startBlock head, task.endBlock m head⟩] := by
        rw [LiveTask.blockFetches_addFetch, LiveTask.blockFetches_setWork, hidle.fetches,
          List.nil_append]
      obtain ⟨hlast, hwork, hsub⟩ :=
        run_fetched hbatch (task.startBlock_bounds head).2 hle hfetched hrun hdone
      constructor
      · apply hsub
      · apply hwork
      · apply hdone
      · rw [if_pos hle, hlast]

/-- An iteration moves the cursor exactly when its batch is not empty. -/
theorem Advanced.cursor_lt_iff {head : Nat} (h : Advanced m head task next)
    (hstart : task.startBlock head ≤ head) :
  task.cursor < next.cursor
    ↔ 0 < m ∧ (0 < task.params.toBlock → task.startBlock head ≤ task.params.toBlock)
  := by
  have hbounds := (task.startBlock_bounds head).2
  rw [← LiveTask.startBlock_le_endBlock_iff hstart, h.cursor]
  split <;> omega

/-- The blocks of a batch can be fetched one after the other. -/
theorem exists_run_fetched (m : Int) (env : Env) {b e : Int}
    (hservice : env.hasNodeService task.group = true) (hbatch : task.blockFetches = [⟨b, e⟩])
    (hle : b ≤ e) :
  ∃ fetches next out, (∀ a ∈ fetches, Fetched task.group a)
    ∧ (taskMachine m).run task fetches = some (next, out) ∧ next.blockFetches = []
  := by
  obtain ⟨k, hk⟩ : ∃ k : Nat, e - b < k := ⟨(e - b).toNat + 1, by omega⟩
  induction k generalizing task b with
  | zero => omega
  | succ k ih =>
      have hfetch : (⟨b, e⟩ : BlockFetch) ∈ task.blockFetches := by
        rw [hbatch]
        apply List.mem_cons_self
      obtain ⟨t, out, hstep⟩ : ∃ t out, (taskMachine m).step task
          (.blockData env ⟨b, e⟩ none ⟨none, [], []⟩) = some (t, out) :=
        ⟨_, _, if_pos hfetch⟩
      have hfetched : Fetched task.group (.blockData env ⟨b, e⟩ none ⟨none, [], []⟩) :=
        ⟨rfl, hservice⟩
      have hnil : ((task.removeFetch ⟨b, e⟩).setCurrentBlockNumber (b + 1)).blockFetches = [] :=
        LiveTask.blockFetches_removeFetch_of_eq hbatch
      cases taskMachine_step hstep with
      | fetchFailed _ herror => cases herror
      | fetched _ _ hr =>
          cases hr with
          | ended _ =>
              refine ⟨[_], _, _, ?_, (Machine.run_singleton _ _ _).trans hstep, hnil⟩
              simpa using hfetched
          | noNodeService _ hnone =>
              rw [show env.hasNodeService task.group = false from hnone] at hservice
              cases hservice
          | fetch hmore _ =>
              have hbatch' : (((task.removeFetch ⟨b, e⟩).setCurrentBlockNumber
                  (b + 1)).addFetch ⟨b + 1, e⟩).blockFetches = [⟨b + 1, e⟩] := by
                rw [LiveTask.blockFetches_addFetch, hnil, List.nil_append]
              have hservice' : env.hasNodeService (((task.removeFetch ⟨b, e⟩).setCurrentBlockNumber
                  (b + 1)).addFetch ⟨b + 1, e⟩).group = true := hservice
              obtain ⟨fetches, next, out', hall, hrun, hdone⟩ :=
                ih hservice' hbatch' hmore (by omega)
              refine ⟨_ :: fetches, next, _, ?_, (Machine.run_cons _).mpr
                ⟨_, _, _, hstep, hrun, rfl⟩, hdone⟩
              rw [List.forall_mem_cons]
              exact ⟨hfetched, hall⟩

/-- Every idle task whose next block is sealed has an iteration. -/
theorem exists_iterates (m : Int) {head : Nat} (h : Idle task)
    (hstart : task.startBlock head ≤ head) :
  ∃ next, Iterates m head task next
  := by
  let env : Env := ⟨fun _ => true, fun _ => true⟩
  have hvisited : (taskMachine m).step task (.visit env)
      = some (task.addQuery, [.asyncGetBlockNumber]) := h.visit_eq rfl rfl
  have hanswered : (taskMachine m).step task.addQuery (.blockNumber env none head)
      = some ((task.setWork true).process env (task.startBlock head) (task.endBlock m head)) :=
    answer_eq rfl hstart
  have hcontinues := (task.setWork true).process_continues env (task.startBlock head)
    (task.endBlock m head)
  generalize (task.setWork true).process env (task.startBlock head)
    (task.endBlock m head) = r at hanswered hcontinues
  obtain ⟨opened, out⟩ := r
  have hfetches : ∃ fetches next out, (∀ a ∈ fetches, Fetched task.group a)
      ∧ (taskMachine m).run opened fetches = some (next, out) ∧ next.blockFetches = [] := by
    cases hcontinues with
    | ended _ => exact ⟨[], _, _, nofun, Machine.run_nil _ _, h.fetches⟩
    | noNodeService _ hnone => cases hnone
    | fetch hle _ =>
        have hbatch : ((task.setWork true).addFetch
            ⟨task.startBlock head, task.endBlock m head⟩).blockFetches
            = [⟨task.startBlock head, task.endBlock m head⟩] := by
          rw [LiveTask.blockFetches_addFetch, LiveTask.blockFetches_setWork, h.fetches,
            List.nil_append]
        exact exists_run_fetched m env rfl hbatch hle
  obtain ⟨fetches, next, _, hfetched, hrun, hdone⟩ := hfetches
  have hwhole := (Machine.run_cons _).mpr ⟨_, _, _, hvisited,
    (Machine.run_cons _).mpr ⟨_, _, _, hanswered, hrun, rfl⟩, rfl⟩
  refine ⟨next, Iterates.run ?_ ?_ ?_ ?_ hfetched hwhole hdone⟩ <;> rfl

/-! ### Iterations one after the other -/

/-- Iterations until the task is complete. The answers are not before the block the task goes
on with. -/
structure Iterations (m : Int) (heads : Nat → Nat) (tasks : Nat → LiveTask) : Prop where
  step : ∀ n, (tasks n).isCompleted = false → Iterates m (heads n) (tasks n) (tasks (n + 1))
  stay : ∀ n, (tasks n).isCompleted = true → tasks (n + 1) = tasks n
  sealed : ∀ n, (tasks n).isCompleted = false → (tasks n).startBlock (heads n) ≤ heads n

/-- Every iteration moves the cursor, and a task with a last block is complete after finitely
many of them. -/
structure Advances (tasks : Nat → LiveTask) : Prop where
  moves : ∀ n, (tasks n).isCompleted = false → (tasks n).cursor < (tasks (n + 1)).cursor
  completes : 0 ≤ (tasks 0).params.toBlock → ∃ n, (tasks n).isCompleted = true

/-- What grows with every step and is bounded while something has not happened makes it
happen. -/
theorem exists_of_increasing {c : Nat → Int} {done : Nat → Prop} {b : Int}
    (hmoves : ∀ n, ¬ done n → c n < c (n + 1)) (hbound : ∀ n, ¬ done n → c n ≤ b) :
  ∃ n, done n
  := by
  by_contra hnone
  rw [not_exists] at hnone
  have hgrown : ∀ n : Nat, c 0 + n ≤ c n := by
    intro n
    induction n with
    | zero => simp
    | succ n ih =>
        have hmove := hmoves n (hnone n)
        omega
  have hlast := hgrown ((b - c 0).toNat + 1)
  have hle := hbound ((b - c 0).toNat + 1) (hnone _)
  omega

section

variable {heads : Nat → Nat} {tasks : Nat → LiveTask}

/-- The task of an iteration that is not complete is idle and has a batch that is not empty. -/
structure Ready (first task : LiveTask) (head : Nat) : Prop where
  idle : Idle task
  nonempty : 0 < first.params.toBlock → task.startBlock head ≤ first.params.toBlock

theorem Iterations.invariant (h : Iterations m heads tasks) (hm : 0 < m)
    (hfirst : Ready (tasks 0) (tasks 0) (heads 0)) (n : Nat) :
  (tasks n).params = (tasks 0).params
    ∧ ((tasks n).isCompleted = false → Ready (tasks 0) (tasks n) (heads n))
  := by
  induction n with
  | zero => exact ⟨rfl, fun _ => hfirst⟩
  | succ n ih =>
      obtain ⟨hparams, hready⟩ := ih
      cases hcompleted : (tasks n).isCompleted with
      | true =>
          rw [h.stay n hcompleted]
          refine ⟨hparams, fun hnot => ?_⟩
          rw [hcompleted] at hnot
          cases hnot
      | false =>
          obtain ⟨hidle, hnonempty⟩ := hready hcompleted
          have hstart := h.sealed n hcompleted
          have hadvanced := (h.step n hcompleted).advanced hidle hstart
          have hparams' : (tasks (n + 1)).params = (tasks 0).params :=
            (congrArg Subscription.params hadvanced.subscription).trans hparams
          refine ⟨hparams', fun hnot => ⟨⟨hnot, hadvanced.work, hadvanced.fetches⟩, ?_⟩⟩
          intro hto
          -- the cursor is set after an iteration, so it is the block to go on with
          have hmoved : (tasks n).startBlock (heads n) ≤ (tasks n).endBlock m (heads n) := by
            apply (LiveTask.startBlock_le_endBlock_iff hstart).mpr
            rw [hparams]
            exact ⟨hm, hnonempty⟩
          have hcursor := hadvanced.cursor
          rw [if_pos hmoved] at hcursor
          have hbounds := ((tasks n).startBlock_bounds (heads n)).1
          rw [LiveTask.startBlock, if_neg (by omega), ← hparams']
          apply LiveTask.cursor_le_of_not_completed hnot
          rw [hparams']
          omega

/-- For a task in any state that is not complete, with `work` not set and no fetch in flight, and
any answers that are not before the block to go on with, every iteration moves the cursor, and a
task with a last block is complete after finitely many of them, exactly when batches are not empty
and the first block of the first one is not behind the last block, unless this is none or zero. -/
theorem advances_iff (hidle : Idle (tasks 0)) (h : Iterations m heads tasks) :
  Advances tasks
    ↔ 0 < m ∧ (0 < (tasks 0).params.toBlock →
      (tasks 0).startBlock (heads 0) ≤ (tasks 0).params.toBlock)
  := by
  constructor
  · intro hadvances
    have hstart := h.sealed 0 hidle.completed
    apply ((h.step 0 hidle.completed).advanced hidle hstart).cursor_lt_iff hstart |>.mp
    apply hadvances.moves 0 hidle.completed
  · rintro ⟨hm, hnonempty⟩
    have hinvariant := h.invariant hm ⟨hidle, hnonempty⟩
    have hmoves : ∀ n, (tasks n).isCompleted = false →
        (tasks n).cursor < (tasks (n + 1)).cursor := by
      intro n hnot
      obtain ⟨hparams, hready⟩ := hinvariant n
      obtain ⟨hidle, hnonempty⟩ := hready hnot
      have hstart := h.sealed n hnot
      apply (((h.step n hnot).advanced hidle hstart).cursor_lt_iff hstart).mpr
      rw [hparams]
      exact ⟨hm, hnonempty⟩
    use hmoves
    intro hto
    apply exists_of_increasing (c := fun n => (tasks n).cursor)
      (b := (tasks 0).params.toBlock)
    · intro n hnot
      apply hmoves n (Bool.eq_false_iff.mpr hnot)
    · intro n hnot
      have hparams := (hinvariant n).1
      rw [← hparams] at hto ⊢
      apply LiveTask.cursor_le_of_not_completed (Bool.eq_false_iff.mpr hnot) hto

end

/-- The new task of a subscription for a range. -/
def rangeTask (fromBlock toBlock : Int) : LiveTask :=
  LiveTask.ofSubscription ⟨"1", "group0", ⟨0, ""⟩, { fromBlock, toBlock }⟩

theorem advances_iff_rangeTask :
  ∃ tasks : Nat → LiveTask, tasks 0 = rangeTask 5 7 ∧ Iterations 10 (fun _ => 9) tasks
    ∧ (Advances tasks ↔ (0 : Int) < 10 ∧ (0 < (tasks 0).params.toBlock →
      (tasks 0).startBlock (9 : Nat) ≤ (tasks 0).params.toBlock))
  := by
  have hidle : Idle (rangeTask 5 7) := ⟨by decide, rfl, rfl⟩
  have hstart : (rangeTask 5 7).startBlock (9 : Nat) ≤ (9 : Nat) := by decide
  obtain ⟨next, hiterates⟩ := exists_iterates 10 hidle hstart
  have hadvanced := hiterates.advanced hidle hstart
  have hparams : next.params = (rangeTask 5 7).params :=
    congrArg Subscription.params hadvanced.subscription
  have hcompleted : next.isCompleted = true := by
    have hcursor : next.state.currentBlockNumber = 8 := hadvanced.cursor
    rw [EventSubTask.isCompleted, hparams, hcursor]
    decide
  have hiterations : Iterations 10 (fun _ => 9)
      (fun n => if n = 0 then rangeTask 5 7 else next) := by
    constructor
    · intro n hnot
      cases n with
      | zero => exact hiterates
      | succ n =>
          rw [if_neg (Nat.succ_ne_zero n), hcompleted] at hnot
          cases hnot
    · intro n hdone
      cases n with
      | zero => cases hdone
      | succ n => rfl
    · intro n hnot
      cases n with
      | zero => exact hstart
      | succ n =>
          rw [if_neg (Nat.succ_ne_zero n), hcompleted] at hnot
          cases hnot
  exact ⟨_, rfl, hiterations, advances_iff hidle hiterations⟩

open EventSub in
/-- A task whose first block is behind its last one never moves. -/
theorem advances_counterexample :
  ¬ ∀ (m : Int) (subscriptions : Nat → Subscription) (as : List EventSubAction) (s : EventSub)
      (o : List (Nat × TaskOutput)) (p head : Nat) (next : LiveTask),
    0 < m → (eventSubMachine m).run (start subscriptions) as = some (s, o) → s.InTable p →
    Idle (s.heap p) → (s.heap p).startBlock head ≤ head →
    (0 ≤ (s.heap p).params.toBlock → (s.heap p).params.toBlock ≤ head) →
    Iterates m head (s.heap p) next →
      (s.heap p).cursor < next.cursor
  := by
  intro h
  have hidle : Idle (rangeTask 10 5) := ⟨by decide, rfl, rfl⟩
  have hstart : (rangeTask 10 5).startBlock (20 : Nat) ≤ (20 : Nat) := by decide
  obtain ⟨next, hiterates⟩ := exists_iterates 10 hidle hstart
  have hmoves := h 10 (fun _ => ⟨"1", "group0", ⟨0, ""⟩, { fromBlock := 10, toBlock := 5 }⟩)
    [.subscribe, .executeAddTasks] _ _ 0 20 next (by decide) rfl (by decide) hidle hstart
    (by decide) hiterates
  have hnonempty := ((hiterates.advanced hidle hstart).cursor_lt_iff hstart).mp hmoves
  apply absurd hnonempty (by decide)
