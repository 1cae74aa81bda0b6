import BcosRpc.Machine.Basic

/-!
# Two runs of a machine

Some steps of a machine are hidden from an observer, who sees a part of the outputs of the
others. When a relation between states is kept by hidden steps of either run and by steps the
runs have in common, and these steps show the same to the observer, then two runs with the
same steps apart from the hidden ones show the same.
-/

namespace Machine

variable {S : Type*} {A : Type*} {E : Type*} {F : Type*} (M : Machine S A E)

/-- The actions of a run that are not hidden. -/
def kept (keep : S → A → Bool) : S → List A → List A
  | _, [] => []
  | s, a :: as =>
      match M.step s a with
      | none => []
      | some (t, _) => if keep s a then a :: kept keep t as else kept keep t as

variable {M}

theorem kept_cons_of_keep {keep : S → A → Bool} {s t : S} {a : A} {e : List E} {as : List A}
    (hstep : M.step s a = some (t, e)) (hkeep : keep s a = true) :
  M.kept keep s (a :: as) = a :: M.kept keep t as
  := by
  rw [kept, hstep]
  simp [hkeep]

theorem kept_cons_of_hidden {keep : S → A → Bool} {s t : S} {a : A} {e : List E} {as : List A}
    (hstep : M.step s a = some (t, e)) (hkeep : keep s a = false) :
  M.kept keep s (a :: as) = M.kept keep t as
  := by
  rw [kept, hstep]
  simp [hkeep]

theorem mem_of_mem_kept {keep : S → A → Bool} {s : S} {a : A} {as : List A}
    (h : a ∈ M.kept keep s as) :
  a ∈ as
  := by
  induction as generalizing s with
  | nil => cases h
  | cons b as ih =>
      rw [kept] at h
      split at h
      · cases h
      · split at h
        · rcases List.mem_cons.mp h with rfl | h
          · apply List.mem_cons_self
          · apply List.mem_cons_of_mem _ (ih h)
        · apply List.mem_cons_of_mem _ (ih h)

/-- An action that is hidden in no state is kept by a run. -/
theorem mem_kept_of_run {keep : S → A → Bool} {s t : S} {a : A} {as : List A} {o : List E}
    (ha : ∀ s, keep s a = true) (hmem : a ∈ as) (hrun : M.run s as = some (t, o)) :
  a ∈ M.kept keep s as
  := by
  induction as generalizing s o with
  | nil => cases hmem
  | cons b as ih =>
      obtain ⟨u, e, o', hstep, hrest, rfl⟩ := (M.run_cons).mp hrun
      rcases List.mem_cons.mp hmem with rfl | hmem
      · rw [kept_cons_of_keep hstep (ha s)]
        apply List.mem_cons_self
      · have hkept := ih hmem hrest
        cases hkeep : keep s b with
        | true =>
            rw [kept_cons_of_keep hstep hkeep]
            apply List.mem_cons_of_mem _ hkept
        | false =>
            rw [kept_cons_of_hidden hstep hkeep]
            apply hkept

/-- What has to be shown of single steps for two runs to show the same to an observer. The
steps are those that meet the condition `Q`. -/
structure Unwinding (M : Machine S A E) (R : S → S → Prop) (keep : S → A → Bool)
    (Q : S → A → Prop) (view : E → Option F) : Prop where
  symm : ∀ {s t}, R s t → R t s
  hidden : ∀ {s t s' a e}, R s t → keep s a = false → Q s a → M.step s a = some (s', e) →
    R s' t ∧ e.filterMap view = []
  kept : ∀ {s t s' t' a e e'}, R s t → keep s a = true → keep t a = true → Q s a → Q t a →
    M.step s a = some (s', e) → M.step t a = some (t', e') →
    R s' t' ∧ e.filterMap view = e'.filterMap view

namespace Unwinding

variable {R : S → S → Prop} {keep : S → A → Bool} {Q : S → A → Prop} {view : E → Option F}

/-- A run of hidden steps shows nothing. -/
theorem run_hidden (U : Unwinding M R keep Q view) {s t s' : S} {as : List A} {o o₀ : List E}
    (hR : R s t) (hQ : M.Along (fun _ s a => Q s a) o₀ s as) (hkept : M.kept keep s as = [])
    (hrun : M.run s as = some (s', o)) :
  R s' t ∧ o.filterMap view = []
  := by
  induction as generalizing s o o₀ with
  | nil =>
      obtain ⟨rfl, rfl⟩ := Prod.mk.inj (Option.some.inj hrun)
      exact ⟨hR, rfl⟩
  | cons a as ih =>
      obtain ⟨u, e, o', hstep, hrest, rfl⟩ := (M.run_cons).mp hrun
      obtain ⟨hq, hQ⟩ := hQ u e hstep
      cases hkeep : keep s a with
      | true =>
          rw [kept_cons_of_keep hstep hkeep] at hkept
          cases hkept
      | false =>
          rw [kept_cons_of_hidden hstep hkeep] at hkept
          obtain ⟨hR, he⟩ := U.hidden hR hkeep hq hstep
          obtain ⟨hR, ho⟩ := ih hR hQ hkept hrest
          rw [List.filterMap_append, he, ho]
          exact ⟨hR, rfl⟩

/-- A run whose first step that is not hidden has the action `a` makes hidden steps up to
it. -/
theorem run_to_kept (U : Unwinding M R keep Q view) {s t t' : S} {a : A} {as bs : List A}
    {o o₀ : List E} (hR : R s t) (hQ : M.Along (fun _ s a => Q s a) o₀ t bs)
    (hkept : M.kept keep t bs = a :: as) (hrun : M.run t bs = some (t', o)) :
  ∃ u v e o' o₁ bs', R s u ∧ keep u a = true ∧ Q u a ∧ M.step u a = some (v, e)
    ∧ M.kept keep v bs' = as ∧ M.Along (fun _ s a => Q s a) o₁ v bs'
    ∧ M.run v bs' = some (t', o') ∧ o.filterMap view = (e ++ o').filterMap view
  := by
  induction bs generalizing t o o₀ with
  | nil => cases hkept
  | cons b bs ih =>
      obtain ⟨u, e, o', hstep, hrest, rfl⟩ := (M.run_cons).mp hrun
      obtain ⟨hq, hQ⟩ := hQ u e hstep
      cases hkeep : keep t b with
      | true =>
          rw [kept_cons_of_keep hstep hkeep] at hkept
          obtain ⟨rfl, htail⟩ := List.cons.inj hkept
          exact ⟨t, u, e, o', _, bs, hR, hkeep, hq, hstep, htail, hQ, hrest, rfl⟩
      | false =>
          rw [kept_cons_of_hidden hstep hkeep] at hkept
          obtain ⟨hR, he⟩ := U.hidden (U.symm hR) hkeep hq hstep
          obtain ⟨u', v, e', o'', o₁, bs', hmore⟩ := ih (U.symm hR) hQ hkept hrest
          use u', v, e', o'', o₁, bs'
          rw [List.filterMap_append, he, List.nil_append]
          apply hmore

/-- Two runs with the same steps apart from the hidden ones show the same. -/
theorem runs (U : Unwinding M R keep Q view) {s t s' t' : S} {as bs : List A}
    {o o' o₀ o₁ : List E} (hR : R s t) (hkept : M.kept keep s as = M.kept keep t bs)
    (has : M.Along (fun _ s a => Q s a) o₀ s as) (hbs : M.Along (fun _ s a => Q s a) o₁ t bs)
    (hrun : M.run s as = some (s', o)) (hrun' : M.run t bs = some (t', o')) :
  R s' t' ∧ o.filterMap view = o'.filterMap view
  := by
  induction as generalizing s t o o' bs o₀ o₁ with
  | nil =>
      obtain ⟨rfl, rfl⟩ := Prod.mk.inj (Option.some.inj hrun)
      obtain ⟨hR, ho⟩ := U.run_hidden (U.symm hR) hbs hkept.symm hrun'
      exact ⟨U.symm hR, ho.symm⟩
  | cons a as ih =>
      obtain ⟨u, e, o'', hstep, hrest, rfl⟩ := (M.run_cons).mp hrun
      obtain ⟨hq, has⟩ := has u e hstep
      cases hkeep : keep s a with
      | true =>
          rw [kept_cons_of_keep hstep hkeep] at hkept
          obtain ⟨v, w, e', o₂, _, bs', hR, hkeep', hq', hstep', hkept, hbs, hrun', ho⟩ :=
            U.run_to_kept hR hbs hkept.symm hrun'
          obtain ⟨hR, he⟩ := U.kept hR hkeep hkeep' hq hq' hstep hstep'
          obtain ⟨hR, ho'⟩ := ih hR hkept.symm has hbs hrest hrun'
          rw [ho, List.filterMap_append, List.filterMap_append, he, ho']
          exact ⟨hR, rfl⟩
      | false =>
          rw [kept_cons_of_hidden hstep hkeep] at hkept
          obtain ⟨hR, he⟩ := U.hidden hR hkeep hq hstep
          obtain ⟨hR, ho⟩ := ih hR hkept has hbs hrest hrun'
          rw [List.filterMap_append, he, ho]
          exact ⟨hR, rfl⟩

end Unwinding

end Machine
