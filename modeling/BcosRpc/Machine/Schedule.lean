import BcosRpc.Machine.Basic

/-!
# Machines with a schedule

`M.scheduled next` is the machine `M` with a phase beside its state: a step of `M` is taken
only when `next` has a phase after it. `M.remember test` is the special case in which no step
is refused, and the phase tells whether an action that meets the test was taken.
-/

namespace Machine

variable {S : Type*} {A : Type*} {E : Type*} {P : Type*} (M : Machine S A E)

/-- The machine with the phases `P`. The phase after a step depends on the state reached, the
phase before and the action. -/
def scheduled (next : S → P → A → Option P) : Machine (S × P) A E where
  step s a := (M.step s.1 a).bind fun r => (next r.1 s.2 a).map fun q => ((r.1, q), r.2)

/-- The machine that remembers whether an action meeting the test was taken. -/
def remember (test : A → Bool) : Machine (S × Bool) A E :=
  M.scheduled fun _ seen a => some (seen || test a)

variable {M}

theorem scheduled_step {next : S → P → A → Option P} {s t : S × P} {a : A} {e : List E} :
  (M.scheduled next).step s a = some (t, e)
    ↔ M.step s.1 a = some (t.1, e) ∧ next t.1 s.2 a = some t.2
  := by
  constructor
  · intro h
    obtain ⟨⟨u, o⟩, hstep, h⟩ := Option.bind_eq_some_iff.mp h
    obtain ⟨q, hq, heq⟩ := Option.map_eq_some_iff.mp h
    obtain ⟨rfl, rfl⟩ := Prod.mk.inj heq
    exact ⟨hstep, hq⟩
  · rintro ⟨hstep, hq⟩
    apply Option.bind_eq_some_iff.mpr ⟨_, hstep, _⟩
    rw [hq]
    rfl

theorem remember_step {test : A → Bool} {s t : S × Bool} {a : A} {e : List E} :
  (M.remember test).step s a = some (t, e)
    ↔ M.step s.1 a = some (t.1, e) ∧ (s.2 || test a) = t.2
  := by
  rw [remember, scheduled_step, Option.some.injEq]

/-- A run of a machine is one that remembers. -/
theorem run_remember {test : A → Bool} {as : List A} {s t : S} {seen : Bool} {o : List E}
    (h : M.run s as = some (t, o)) :
  (M.remember test).run (s, seen) as = some ((t, seen || as.any test), o)
  := by
  induction as generalizing s seen o with
  | nil =>
      obtain ⟨rfl, rfl⟩ := Prod.mk.inj (Option.some.inj h)
      rw [List.any_nil, Bool.or_false, run_nil]
  | cons a as ih =>
      obtain ⟨u, e, o', hstep, hrest, rfl⟩ := (M.run_cons).mp h
      apply (run_cons _).mpr
      refine ⟨(u, seen || test a), e, o', remember_step.mpr ⟨hstep, rfl⟩, ?_, rfl⟩
      rw [List.any_cons, ← Bool.or_assoc]
      apply ih hrest

/-- A run of a machine that remembers is one of the machine. -/
theorem run_of_remember {test : A → Bool} {as : List A} {s t : S × Bool} {o : List E}
    (h : (M.remember test).run s as = some (t, o)) :
  M.run s.1 as = some (t.1, o) ∧ t.2 = (s.2 || as.any test)
  := by
  induction as generalizing s o with
  | nil =>
      obtain ⟨rfl, rfl⟩ := Prod.mk.inj (Option.some.inj h)
      rw [List.any_nil, Bool.or_false]
      exact ⟨rfl, rfl⟩
  | cons a as ih =>
      obtain ⟨u, e, o', hstep, hrest, rfl⟩ := (run_cons _).mp h
      obtain ⟨hstep, hseen⟩ := remember_step.mp hstep
      obtain ⟨hrun, hlast⟩ := ih hrest
      constructor
      · apply (M.run_cons).mpr ⟨_, _, _, hstep, hrun, rfl⟩
      · rw [hlast, ← hseen, List.any_cons, Bool.or_assoc]

/-- A property holds throughout a run that remembers when it holds after every run of a prefix
of the actions, with what the prefix has to remember. -/
theorem throughout_remember_iff {test : A → Bool} {Q : List E → S × Bool → Prop} {s : S}
    {as : List A} :
  (M.remember test).Throughout Q [] (s, false) as
    ↔ ∀ bs, bs <+: as → ∀ t e, M.run s bs = some (t, e) → Q e (t, bs.any test)
  := by
  rw [throughout_iff_run]
  constructor
  · intro h bs hbs t e hrun
    apply h bs hbs _ _ (run_remember hrun)
  · intro h bs hbs t e hrun
    obtain ⟨hrun, hseen⟩ := run_of_remember hrun
    rw [Bool.false_or] at hseen
    obtain ⟨t, seen⟩ := t
    obtain rfl : seen = bs.any test := hseen
    apply h bs hbs t e hrun

theorem along_remember_iff {test : A → Bool} {C : List E → S → A → Prop} {o : List E} {s : S}
    {seen : Bool} {as : List A} :
  (M.remember test).Along (fun o s a => C o s.1 a) o (s, seen) as ↔ M.Along C o s as
  := by
  induction as generalizing o s seen with
  | nil => exact Iff.rfl
  | cons a as ih =>
      constructor
      · intro h t e hstep
        obtain ⟨hc, hrest⟩ := h (t, seen || test a) e (remember_step.mpr ⟨hstep, rfl⟩)
        exact ⟨hc, ih.mp hrest⟩
      · intro h t e hstep
        obtain ⟨hc, hrest⟩ := h t.1 e (remember_step.mp hstep).1
        exact ⟨hc, ih.mpr hrest⟩

namespace Projection

variable {T B F : Type*} {N : Machine T B F} (π : Projection M N)

/-- A projection of a machine is one of the machine with a schedule. -/
def ofScheduled (next : S → P → A → Option P) : Projection (M.scheduled next) N where
  state s := π.state s.1
  action := π.action
  output := π.output
  idle ha h := π.idle ha (scheduled_step.mp h).1
  step ha h := π.step ha (scheduled_step.mp h).1

/-- Machines that remember the same project onto each other. -/
def remember (test : B → Bool) :
    Projection (M.remember fun a => (π.action a).any test) (N.remember test) where
  state s := (π.state s.1, s.2)
  action := π.action
  output := π.output
  idle := by
    intro s a t e ha h
    obtain ⟨hstep, hseen⟩ := remember_step.mp h
    obtain ⟨hstate, hout⟩ := π.idle ha hstep
    rw [ha, Option.any_none, Bool.or_false] at hseen
    rw [hstate, hseen]
    exact ⟨rfl, hout⟩
  step := by
    intro s a b t e ha h
    obtain ⟨hstep, hseen⟩ := remember_step.mp h
    rw [ha, Option.any_some] at hseen
    exact remember_step.mpr ⟨π.step ha hstep, hseen⟩

end Projection

end Machine
