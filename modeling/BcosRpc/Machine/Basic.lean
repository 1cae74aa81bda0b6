import Mathlib.Data.List.Induction

/-!
# Step machines

A `Machine S A E` has states `S`, actions `A` and outputs `E`. An action is refused in a
state, or leads to a state and a list of outputs. A property of a run depends on the
outputs so far and on the state: `Throughout P` says that it holds in every state the run
passes, and `Along C` that the condition `C` holds of every step the run takes.

`Exact I P C` collects what has to be shown once to conclude, for every run, that `P` holds
throughout it exactly when `C` holds along it. A `Projection` of a machine onto another one
carries this over to the runs of the first.
-/

universe u v w

/-- A machine that answers an action in a state with the next state and the outputs of the
step, or refuses it. -/
structure Machine (S : Type u) (A : Type v) (E : Type w) where
  step : S → A → Option (S × List E)

namespace Machine

variable {S : Type*} {A : Type*} {E : Type*} (M : Machine S A E)

/-! ### Runs -/

/-- The last state and the outputs of the run of a list of actions, none of them
refused. -/
def run : S → List A → Option (S × List E)
  | s, [] => some (s, [])
  | s, a :: as =>
      match M.step s a with
      | none => none
      | some (t, e) => (run t as).map fun r => (r.1, e ++ r.2)

@[simp]
theorem run_nil (s : S) :
  M.run s [] = some (s, [])
  := rfl

theorem run_cons {s u : S} {a : A} {as : List A} {o : List E} :
  M.run s (a :: as) = some (u, o)
    ↔ ∃ t e o', M.step s a = some (t, e) ∧ M.run t as = some (u, o') ∧ o = e ++ o'
  := by
  rw [run]
  rcases M.step s a with - | ⟨t, e⟩
  · simp
  · simp only [Option.map_eq_some_iff, Prod.mk.injEq, Prod.exists, Option.some.injEq]
    constructor
    · rintro ⟨_, o', hrun, rfl, rfl⟩
      exact ⟨t, e, o', ⟨rfl, rfl⟩, hrun, rfl⟩
    · rintro ⟨_, _, o', ⟨rfl, rfl⟩, hrun, rfl⟩
      exact ⟨u, o', hrun, rfl, rfl⟩

@[simp]
theorem run_singleton (s : S) (a : A) :
  M.run s [a] = M.step s a
  := by
  rw [run]
  rcases M.step s a with - | ⟨t, e⟩
  · rfl
  · simp

theorem run_append {s u : S} {as bs : List A} {o : List E} :
  M.run s (as ++ bs) = some (u, o)
    ↔ ∃ t e o', M.run s as = some (t, e) ∧ M.run t bs = some (u, o') ∧ o = e ++ o'
  := by
  induction as generalizing s o with
  | nil =>
      constructor
      · intro h
        exact ⟨s, [], o, rfl, h, rfl⟩
      · rintro ⟨_, _, o', hrun, hrest, rfl⟩
        obtain ⟨rfl, rfl⟩ := Prod.mk.inj (Option.some.inj hrun)
        apply hrest
  | cons a as ih =>
      constructor
      · intro h
        obtain ⟨t, e, o', hstep, hrest, rfl⟩ := M.run_cons.mp h
        obtain ⟨v, e', o'', hrun, hlast, rfl⟩ := ih.mp hrest
        use v, e ++ e', o'', M.run_cons.mpr ⟨t, e, e', hstep, hrun, rfl⟩, hlast
        rw [List.append_assoc]
      · rintro ⟨v, _, o'', hrun, hlast, rfl⟩
        obtain ⟨t, e, e', hstep, hrest, rfl⟩ := M.run_cons.mp hrun
        apply M.run_cons.mpr ⟨t, e, e' ++ o'', hstep, ih.mpr ⟨v, e', o'', hrest, hlast, rfl⟩, _⟩
        rw [List.append_assoc]

/-! ### Properties of runs -/

/-- `C` holds of the outputs so far, the state and the action at every step taken when the
actions are fed to the machine in order, up to the first one it refuses. -/
def Along (C : List E → S → A → Prop) : List E → S → List A → Prop
  | _, _, [] => True
  | o, s, a :: as => ∀ t e, M.step s a = some (t, e) → C o s a ∧ Along C (o ++ e) t as

instance Along.decidable {C : List E → S → A → Prop} [∀ o s a, Decidable (C o s a)]
    (o : List E) (s : S) (as : List A) : Decidable (M.Along C o s as) :=
  match as with
  | [] => isTrue trivial
  | a :: as =>
      match h : M.step s a with
      | none => isTrue fun t e hstep => by rw [h] at hstep; cases hstep
      | some (t, e) =>
          have : Decidable (M.Along C (o ++ e) t as) := Along.decidable (o ++ e) t as
          decidable_of_iff (C o s a ∧ M.Along C (o ++ e) t as) <| by
            rw [Along]
            constructor
            · intro hC t' e' hstep
              rw [h] at hstep
              obtain ⟨rfl, rfl⟩ := Prod.mk.inj (Option.some.inj hstep)
              apply hC
            · intro hC
              apply hC t e h

/-- `P` holds of the outputs so far and the state, at the start and after every step taken
when the actions are fed to the machine in order, up to the first one it refuses. -/
def Throughout (P : List E → S → Prop) : List E → S → List A → Prop
  | o, s, [] => P o s
  | o, s, a :: as => P o s ∧ ∀ t e, M.step s a = some (t, e) → Throughout P (o ++ e) t as

instance Throughout.decidable {P : List E → S → Prop} [∀ o s, Decidable (P o s)] (o : List E)
    (s : S) (as : List A) : Decidable (M.Throughout P o s as) :=
  match as with
  | [] => inferInstanceAs (Decidable (P o s))
  | a :: as =>
      match h : M.step s a with
      | none =>
          decidable_of_iff (P o s) ⟨fun hP => ⟨hP, fun t e hstep => by rw [h] at hstep; cases hstep⟩,
            And.left⟩
      | some (t, e) =>
          have : Decidable (M.Throughout P (o ++ e) t as) := Throughout.decidable (o ++ e) t as
          decidable_of_iff (P o s ∧ M.Throughout P (o ++ e) t as) <| by
            rw [Throughout]
            constructor
            · rintro ⟨hP, hrest⟩
              use hP
              intro t' e' hstep
              rw [h] at hstep
              obtain ⟨rfl, rfl⟩ := Prod.mk.inj (Option.some.inj hstep)
              apply hrest
            · rintro ⟨hP, hrest⟩
              exact ⟨hP, hrest t e h⟩

variable {M}

theorem Throughout.head {P : List E → S → Prop} {o : List E} {s : S} {as : List A}
    (h : M.Throughout P o s as) :
  P o s
  := by
  cases as with
  | nil => exact h
  | cons a as => exact h.1

/-- A property that holds throughout holds after every run of a prefix of the actions. -/
theorem throughout_iff_run {P : List E → S → Prop} {o : List E} {s : S} {as : List A} :
  M.Throughout P o s as
    ↔ ∀ bs, bs <+: as → ∀ t e, M.run s bs = some (t, e) → P (o ++ e) t
  := by
  induction as generalizing o s with
  | nil =>
      simp only [List.prefix_nil, forall_eq, run_nil, Option.some.injEq, Prod.mk.injEq]
      constructor
      · rintro h _ _ ⟨rfl, rfl⟩
        rw [List.append_nil]
        apply h
      · intro h
        have := h s [] ⟨rfl, rfl⟩
        rwa [List.append_nil] at this
  | cons a as ih =>
      constructor
      · intro h bs hbs t e hrun
        cases bs with
        | nil =>
            obtain ⟨rfl, rfl⟩ := Prod.mk.inj (Option.some.inj hrun)
            rw [List.append_nil]
            apply h.1
        | cons b bs =>
            obtain ⟨rfl, hpre⟩ := List.cons_prefix_cons.mp hbs
            obtain ⟨t', e', o', hstep, hrest, rfl⟩ := (M.run_cons).mp hrun
            rw [← List.append_assoc]
            apply ih.mp (h.2 t' e' hstep) bs hpre t o' hrest
      · intro h
        constructor
        · have := h [] (List.nil_prefix) s [] rfl
          rwa [List.append_nil] at this
        · intro t e hstep
          apply ih.mpr
          intro bs hbs u o' hrun
          rw [List.append_assoc]
          apply h (a :: bs) (List.cons_prefix_cons.mpr ⟨rfl, hbs⟩) u
          apply (M.run_cons).mpr ⟨t, e, o', hstep, hrun, rfl⟩

/-- A condition met along a run implies another one along it that follows from it under an
invariant. -/
theorem Along.imp {C C' : List E → S → A → Prop} {I : List E → S → Prop}
    (keep : ∀ {o s a t e}, I o s → C o s a → M.step s a = some (t, e) → I (o ++ e) t)
    (hC : ∀ {o s a t e}, I o s → C o s a → M.step s a = some (t, e) → C' o s a)
    {o : List E} {s : S} {as : List A} (hI : I o s) (h : M.Along C o s as) :
  M.Along C' o s as
  := by
  induction as generalizing o s with
  | nil => trivial
  | cons a as ih =>
      intro t e hstep
      obtain ⟨hc, hrest⟩ := h t e hstep
      exact ⟨hC hI hc hstep, ih (keep hI hc hstep) hrest⟩

/-- A condition that some actions meet in every state is met along every run of them. -/
theorem along_of_forall_mem {C : List E → S → A → Prop} {as : List A}
    (hC : ∀ a ∈ as, ∀ o s, C o s a) (o : List E) (s : S) :
  M.Along C o s as
  := by
  induction as generalizing o s with
  | nil => trivial
  | cons a as ih =>
      intro t e _
      exact ⟨hC a List.mem_cons_self o s, ih (fun b hb => hC b (List.mem_cons_of_mem _ hb)) _ _⟩

theorem along_of_forall {C : List E → S → A → Prop} (hC : ∀ o s a, C o s a) (o : List E)
    (s : S) (as : List A) :
  M.Along C o s as
  := along_of_forall_mem (fun a _ o s => hC o s a) o s

/-- A condition met along a run is met when actions follow along which it is met anyway. -/
theorem Along.append {C : List E → S → A → Prop} {o : List E} {s : S} {as bs : List A}
    (h : M.Along C o s as) (hbs : ∀ o s, M.Along C o s bs) :
  M.Along C o s (as ++ bs)
  := by
  induction as generalizing o s with
  | nil => apply hbs
  | cons a as ih =>
      intro t e hstep
      obtain ⟨hc, hrest⟩ := h t e hstep
      exact ⟨hc, ih hrest⟩

/-- A condition met along a run and one met by all its actions are met together. -/
theorem Along.and_forall {C : List E → S → A → Prop} {P : A → Prop} {o : List E} {s : S}
    {as : List A} (h : M.Along C o s as) (hP : ∀ a ∈ as, P a) :
  M.Along (fun o s a => C o s a ∧ P a) o s as
  := by
  induction as generalizing o s with
  | nil => trivial
  | cons a as ih =>
      intro t e hstep
      obtain ⟨hc, hrest⟩ := h t e hstep
      exact ⟨⟨hc, hP a List.mem_cons_self⟩, ih hrest fun b hb => hP b (List.mem_cons_of_mem _ hb)⟩

/-- An invariant that every step meeting the condition preserves holds throughout every run
along which the condition holds. -/
theorem Along.invariant {C : List E → S → A → Prop} {I : List E → S → Prop}
    (keep : ∀ {o s a t e}, I o s → C o s a → M.step s a = some (t, e) → I (o ++ e) t)
    {o : List E} {s : S} {as : List A} (hI : I o s) (h : M.Along C o s as) :
  M.Throughout I o s as
  := by
  induction as generalizing o s with
  | nil => exact hI
  | cons a as ih =>
      constructor
      · apply hI
      · intro t e hstep
        obtain ⟨hc, hrest⟩ := h t e hstep
        apply ih (keep hI hc hstep) hrest

/-- An invariant with a count of the marked actions so far: a step keeps it, with one more when
its action is marked. -/
theorem Along.counted (mark : A → Bool) {C : List E → S → A → Prop} {I : Nat → S → Prop}
    (keep : ∀ {n o s a t e}, I n s → C o s a → M.step s a = some (t, e) →
      I (if mark a then n + 1 else n) t)
    {n : Nat} {o e : List E} {s t : S} {as : List A} (hI : I n s) (h : M.Along C o s as)
    (hrun : M.run s as = some (t, e)) :
  I (n + as.countP mark) t
  := by
  induction as generalizing n o s e with
  | nil =>
      obtain ⟨rfl, rfl⟩ := Prod.mk.inj (Option.some.inj hrun)
      exact hI
  | cons a as ih =>
      obtain ⟨u, e', o', hstep, hrest, rfl⟩ := (M.run_cons).mp hrun
      obtain ⟨hc, hlater⟩ := h u e' hstep
      have hlast := ih (keep hI hc hstep) hlater hrest
      rw [List.countP_cons]
      cases hmark : mark a with
      | false =>
          rw [hmark] at hlast
          exact hlast
      | true =>
          rw [hmark] at hlast
          rwa [if_pos rfl, ← Nat.add_assoc, Nat.add_right_comm]

theorem Throughout.imp {P Q : List E → S → Prop} (hPQ : ∀ o s, P o s → Q o s)
    {o : List E} {s : S} {as : List A} (h : M.Throughout P o s as) :
  M.Throughout Q o s as
  := by
  induction as generalizing o s with
  | nil => exact hPQ o s h
  | cons a as ih =>
      constructor
      · apply hPQ o s h.1
      · intro t e hstep
        apply ih (h.2 t e hstep)

/-- An invariant that the steps from states with a property preserve holds throughout every run
along which the property does. -/
theorem Throughout.invariant {P I : List E → S → Prop}
    (keep : ∀ {o s a t e}, I o s → P o s → M.step s a = some (t, e) → I (o ++ e) t)
    {o : List E} {s : S} {as : List A} (hI : I o s) (h : M.Throughout P o s as) :
  M.Throughout I o s as
  := by
  induction as generalizing o s with
  | nil => exact hI
  | cons a as ih =>
      use hI
      intro t e hstep
      apply ih (keep hI h.1 hstep) (h.2 t e hstep)

/-- What holds throughout a run holds throughout its parts. -/
theorem Throughout.of_append {P : List E → S → Prop} {o e : List E} {s t : S} {as bs : List A}
    (h : M.Throughout P o s (as ++ bs)) (hrun : M.run s as = some (t, e)) :
  M.Throughout P (o ++ e) t bs
  := by
  apply throughout_iff_run.mpr
  intro cs hcs u e' hrest
  rw [List.append_assoc]
  apply throughout_iff_run.mp h (as ++ cs) ((List.prefix_append_right_inj as).mpr hcs)
  apply (M.run_append).mpr ⟨t, e, e', hrun, hrest, rfl⟩

theorem Throughout.run {P : List E → S → Prop} {o e : List E} {s t : S} {as : List A}
    (h : M.Throughout P o s as) (hrun : M.run s as = some (t, e)) :
  P (o ++ e) t
  := throughout_iff_run.mp h as List.prefix_rfl t e hrun

/-- The invariant of a machine whose every step preserves it holds after every run. -/
theorem run_invariant {I : List E → S → Prop}
    (keep : ∀ {o s a t e}, I o s → M.step s a = some (t, e) → I (o ++ e) t)
    {s t : S} {as : List A} {o e : List E} (hI : I o s) (hrun : M.run s as = some (t, e)) :
  I (o ++ e) t
  := by
  induction as generalizing o s e with
  | nil =>
      obtain ⟨rfl, rfl⟩ := Prod.mk.inj (Option.some.inj hrun)
      rwa [List.append_nil]
  | cons a as ih =>
      obtain ⟨t', e', o', hstep, hrest, rfl⟩ := (M.run_cons).mp hrun
      rw [← List.append_assoc]
      apply ih (keep hI hstep) hrest

/-- An invariant that also knows the actions taken so far. -/
theorem run_history {I : List A → List E → S → Prop}
    (keep : ∀ {as o s a t e}, I as o s → M.step s a = some (t, e) → I (as ++ [a]) (o ++ e) t)
    {s t : S} {as : List A} {o : List E} (hI : I [] [] s) (hrun : M.run s as = some (t, o)) :
  I as o t
  := by
  induction as using List.reverseRecOn generalizing t o with
  | nil =>
      obtain ⟨rfl, rfl⟩ := Prod.mk.inj (Option.some.inj hrun)
      exact hI
  | append_singleton as a ih =>
      obtain ⟨u, e, e', hbefore, hlast, rfl⟩ := (M.run_append).mp hrun
      rw [run_singleton] at hlast
      apply keep (ih hbefore) hlast

/-- Two machines that take the same steps under an invariant take the same runs. -/
theorem run_congr {N : Machine S A E} {I : S → Prop} {C : A → Prop}
    (same : ∀ {s a}, I s → C a → N.step s a = M.step s a)
    (keep : ∀ {s a t e}, I s → C a → M.step s a = some (t, e) → I t)
    {s : S} {as : List A} (hI : I s) (hC : ∀ a ∈ as, C a) :
  N.run s as = M.run s as
  := by
  induction as generalizing s with
  | nil => rfl
  | cons a as ih =>
      have ha := hC a List.mem_cons_self
      rw [run, run, same hI ha]
      cases hstep : M.step s a with
      | none => rfl
      | some r =>
          dsimp only
          rw [ih (keep hI ha hstep) fun b hb => hC b (List.mem_cons_of_mem _ hb)]

/-- When from every state with an invariant that is not at the goal some action of a kind keeps
the invariant and lowers the rank, a run of such actions, no longer than the rank, gets there. -/
theorem exists_run_of_rank {I : List E → S → Prop} {C : A → Prop} {G : S → Prop}
    (rank : S → Nat)
    (advance : ∀ {o s}, I o s → ¬ G s → ∃ a t e, C a ∧ M.step s a = some (t, e)
      ∧ I (o ++ e) t ∧ rank t < rank s)
    {o : List E} {s : S} (hI : I o s) :
  ∃ as t e, as.length ≤ rank s ∧ (∀ a ∈ as, C a) ∧ M.run s as = some (t, e) ∧ I (o ++ e) t
    ∧ G t
  := by
  induction hrank : rank s using Nat.strongRecOn generalizing o s with
  | ind n ih =>
      subst hrank
      by_cases hgoal : G s
      · refine ⟨[], s, [], Nat.zero_le _, nofun, rfl, ?_, hgoal⟩
        rwa [List.append_nil]
      · obtain ⟨a, t, e, ha, hstep, ht, hlower⟩ := advance hI hgoal
        obtain ⟨as, u, e', hlength, has, hrun, hu, hgoal⟩ := ih (rank t) hlower ht rfl
        refine ⟨a :: as, u, e ++ e', ?_, ?_, ?_, ?_, hgoal⟩
        · rw [List.length_cons]
          omega
        · apply List.forall_mem_cons.mpr ⟨ha, has⟩
        · apply (M.run_cons).mpr ⟨t, e, e', hstep, hrun, rfl⟩
        · rwa [← List.append_assoc]

/-! ### Exact conditions -/

/-- What has to be shown of single steps for the property `P` to hold throughout a run
exactly when the condition `C` holds along it, for the runs along which `Q` holds: the
invariant `I` implies `P`, a step that meets `C` preserves `I`, and a step from `I` that does
not meet `C` breaks `P`. -/
structure Exact (M : Machine S A E) (I P : List E → S → Prop) (Q C : List E → S → A → Prop) :
    Prop where
  sound : ∀ {o s}, I o s → P o s
  keep : ∀ {o s a t e}, I o s → Q o s a → C o s a → M.step s a = some (t, e) → I (o ++ e) t
  exact : ∀ {o s a t e}, I o s → Q o s a → M.step s a = some (t, e) → P (o ++ e) t → C o s a

theorem Exact.throughout_iff {I P : List E → S → Prop} {Q C : List E → S → A → Prop}
    (X : Exact M I P Q C) {o : List E} {s : S} (hI : I o s) {as : List A}
    (hQ : M.Along Q o s as) :
  M.Throughout P o s as ↔ M.Along C o s as
  := by
  constructor
  · intro h
    induction as generalizing o s with
    | nil => trivial
    | cons a as ih =>
        intro t e hstep
        obtain ⟨hq, hrest⟩ := hQ t e hstep
        have hP := h.2 t e hstep
        have hc := X.exact hI hq hstep hP.head
        exact ⟨hc, ih (X.keep hI hq hc hstep) hrest hP⟩
  · intro h
    induction as generalizing o s with
    | nil => exact X.sound hI
    | cons a as ih =>
        use X.sound hI
        intro t e hstep
        obtain ⟨hq, hrestQ⟩ := hQ t e hstep
        obtain ⟨hc, hrest⟩ := h t e hstep
        apply ih (X.keep hI hq hc hstep) hrestQ hrest

/-! ### Projections -/

/-- A projection of the machine `M` onto the machine `N`: an action of `M` is an action of
`N` on the projected state, or leaves it as it is. -/
structure Projection {T B F : Type*} (M : Machine S A E) (N : Machine T B F) where
  state : S → T
  action : A → Option B
  output : E → Option F
  idle : ∀ {s a t e}, action a = none → M.step s a = some (t, e) →
    state t = state s ∧ e.filterMap output = []
  step : ∀ {s a b t e}, action a = some b → M.step s a = some (t, e) →
    N.step (state s) b = some (state t, e.filterMap output)

namespace Projection

variable {T B F : Type*} {N : Machine T B F} (π : Projection M N)

/-- The outputs of the projected machine among the outputs of a run. -/
def outputs (o : List E) : List F := o.filterMap π.output

@[simp]
theorem outputs_append (o o' : List E) :
  π.outputs (o ++ o') = π.outputs o ++ π.outputs o'
  := List.filterMap_append

/-- An invariant of the steps of the projected machine that meet a condition is one of the
steps of `M` whose projections meet it. -/
theorem keep {I : List F → T → Prop} {C : List F → T → B → Prop}
    (keep : ∀ {o s a t e}, I o s → C o s a → N.step s a = some (t, e) → I (o ++ e) t)
    {o e : List E} {s t : S} {a : A} (hI : I (π.outputs o) (π.state s))
    (hC : ∀ b, π.action a = some b → C (π.outputs o) (π.state s) b)
    (hstep : M.step s a = some (t, e)) :
  I (π.outputs (o ++ e)) (π.state t)
  := by
  rw [outputs_append]
  cases hact : π.action a with
  | none =>
      obtain ⟨hs, he⟩ := π.idle hact hstep
      rw [hs, outputs, outputs, he, List.append_nil]
      apply hI
  | some b => exact keep hI (hC b hact) (π.step hact hstep)

/-- What holds of the steps of the projected machine exactly when a condition holds of them
holds of the steps of `M` exactly when the condition holds of their projections. -/
theorem exact {I P : List F → T → Prop} {Q C : List F → T → B → Prop} (X : Exact N I P Q C) :
  Exact M (fun o s => I (π.outputs o) (π.state s)) (fun o s => P (π.outputs o) (π.state s))
    (fun o s a => ∀ b, π.action a = some b → Q (π.outputs o) (π.state s) b)
    (fun o s a => ∀ b, π.action a = some b → C (π.outputs o) (π.state s) b)
  := by
  constructor
  · intro o s hI
    apply X.sound hI
  · intro o s a t e hI hQ hC hstep
    apply π.keep (C := fun o s b => Q o s b ∧ C o s b) _ hI _ hstep
    · intro o s b t e hI h hstep
      apply X.keep hI h.1 h.2 hstep
    · intro b hb
      exact ⟨hQ b hb, hC b hb⟩
  · intro o s a t e hI hQ hstep hP b hact
    rw [outputs_append] at hP
    apply X.exact hI (hQ b hact) (π.step hact hstep) hP

/-- A run of `M` projects to a run of `N`. -/
theorem run {s t : S} {as : List A} {o : List E} (h : M.run s as = some (t, o)) :
  N.run (π.state s) (as.filterMap π.action) = some (π.state t, π.outputs o)
  := by
  induction as generalizing s o with
  | nil =>
      obtain ⟨rfl, rfl⟩ := Prod.mk.inj (Option.some.inj h)
      rfl
  | cons a as ih =>
      obtain ⟨t', e, o', hstep, hrun, rfl⟩ := (M.run_cons).mp h
      rw [outputs_append]
      cases hact : π.action a with
      | none =>
          obtain ⟨hs, he⟩ := π.idle hact hstep
          rw [List.filterMap_cons_none hact, ← hs, outputs, he, List.nil_append]
          apply ih hrun
      | some b =>
          rw [List.filterMap_cons_some hact]
          apply (N.run_cons).mpr ⟨_, _, _, π.step hact hstep, ih hrun, rfl⟩

/-- What holds of the projection throughout a run of `M` holds throughout the projected run. -/
theorem throughout {P : List F → T → Prop} {o e : List E} {s t : S} {as : List A}
    (h : M.Throughout (fun o s => P (π.outputs o) (π.state s)) o s as)
    (hrun : M.run s as = some (t, e)) :
  N.Throughout P (π.outputs o) (π.state s) (as.filterMap π.action)
  := by
  induction as generalizing o s e with
  | nil => exact h
  | cons a as ih =>
      obtain ⟨t', e', o', hstep, hrest, rfl⟩ := (M.run_cons).mp hrun
      have hlater := ih (h.2 t' e' hstep) hrest
      rw [outputs_append] at hlater
      cases hact : π.action a with
      | none =>
          obtain ⟨hs, he⟩ := π.idle hact hstep
          rw [List.filterMap_cons_none hact]
          rwa [hs, outputs, outputs, he, List.append_nil] at hlater
      | some b =>
          rw [List.filterMap_cons_some hact]
          use h.1
          intro u f hstep'
          rw [π.step hact hstep] at hstep'
          obtain ⟨rfl, rfl⟩ := Prod.mk.inj (Option.some.inj hstep')
          apply hlater

end Projection

end Machine
