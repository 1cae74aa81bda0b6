import Mathlib.Tactic.Common

/-!
# Code that calls back

A `Run ε ω α` is what a piece of code does: it shows a list of events `ω`, and it returns an
`α`, throws an `ε`, or crashes. A service that answers by a callback throws at once, invokes
the callback before it returns, or invokes it later; what a later callback throws ends in the
thread of the service.

`Settles p` says that a run guarded by a handler that shows one event of the kind `p` shows
exactly one such event in all; `Answers p` says it of a run without a handler. `Always p` says
that every event of a run has a property.
-/

universe u v w

/-- Why a piece of code does not return. -/
inductive Stop (ε : Type u) where
  | threw (e : ε)
  | crashed

/-- The outcome of a piece of code and the events it shows. -/
structure Run (ε : Type u) (ω : Type v) (α : Type w) where
  outcome : Except (Stop ε) α
  trace : List ω

namespace Run

variable {ε ω : Type} {α β : Type}

def bind (m : Run ε ω α) (f : α → Run ε ω β) : Run ε ω β :=
  match m.outcome with
  | .error stop => ⟨.error stop, m.trace⟩
  | .ok a => ⟨(f a).outcome, m.trace ++ (f a).trace⟩

instance : Monad (Run ε ω) where
  pure a := ⟨.ok a, []⟩
  bind := bind

def throw (e : ε) : Run ε ω α := ⟨.error (.threw e), []⟩

def crash : Run ε ω α := ⟨.error .crashed, []⟩

/-- Show an event. -/
def emit (x : ω) : Run ε ω Unit := ⟨.ok (), [x]⟩

/-- The value of a call that may throw. -/
def ofExcept (x : Except ε α) : Run ε ω α :=
  match x with
  | .error e => throw e
  | .ok a => pure a

/-- The object behind a pointer that is checked first. -/
def require (o : Option α) (e : ε) : Run ε ω α :=
  match o with
  | none => throw e
  | some a => pure a

/-- The object behind a pointer that is not checked. -/
def deref (o : Option α) : Run ε ω α :=
  match o with
  | none => crash
  | some a => pure a

/-- Go on if a pointer is not null. -/
def whenSome (o : Option α) (f : α → Run ε ω Unit) : Run ε ω Unit :=
  match o with
  | none => pure ()
  | some a => f a

/-- Handle what a piece of code throws. -/
def handle (m : Run ε ω Unit) (handler : ε → Run ε ω Unit) : Run ε ω Unit :=
  match m.outcome with
  | .error (.threw e) => ⟨(handler e).outcome, m.trace ++ (handler e).trace⟩
  | _ => m

/-! ### Sequencing -/

@[simp]
theorem pure_bind (a : α) (f : α → Run ε ω β) :
  (pure a : Run ε ω α) >>= f = f a
  := rfl

@[simp]
theorem throw_bind (e : ε) (f : α → Run ε ω β) :
  (throw e : Run ε ω α) >>= f = throw e
  := rfl

@[simp]
theorem crash_bind (f : α → Run ε ω β) :
  (crash : Run ε ω α) >>= f = crash
  := rfl

theorem emit_bind (x : ω) (f : Unit → Run ε ω β) :
  emit x >>= f = ⟨(f ()).outcome, x :: (f ()).trace⟩
  := rfl

/-- A property of what follows a checked pointer, for one that a thrown exception has. -/
theorem require_bind_iff_forall (K : Run ε ω β → Prop) {e : ε} (hK : K (throw e))
    (o : Option α) (f : α → Run ε ω β) :
  K (require o e >>= f) ↔ ∀ a, o = some a → K (f a)
  := by
  cases o with
  | none => simpa [require] using hK
  | some a => simp [require]

/-- A property of what follows a checked pointer, for one that a thrown exception does not
have. -/
theorem require_bind_iff_exists (K : Run ε ω β → Prop) {e : ε} (hK : ¬ K (throw e))
    (o : Option α) (f : α → Run ε ω β) :
  K (require o e >>= f) ↔ ∃ a, o = some a ∧ K (f a)
  := by
  cases o with
  | none => simpa [require] using hK
  | some a => simp [require]

theorem ofExcept_bind_iff_forall (K : Run ε ω β → Prop) (hK : ∀ e, K (throw e))
    (x : Except ε α) (f : α → Run ε ω β) :
  K (ofExcept x >>= f) ↔ ∀ a, x = .ok a → K (f a)
  := by
  cases x with
  | error e => simpa [ofExcept] using hK e
  | ok a => simp [ofExcept]

theorem ofExcept_bind_iff_exists (K : Run ε ω β → Prop) (hK : ∀ e, ¬ K (throw e))
    (x : Except ε α) (f : α → Run ε ω β) :
  K (ofExcept x >>= f) ↔ ∃ a, x = .ok a ∧ K (f a)
  := by
  cases x with
  | error e => simpa [ofExcept] using hK e
  | ok a => simp [ofExcept]

theorem deref_bind_iff_forall (K : Run ε ω β → Prop) (hK : K crash)
    (o : Option α) (f : α → Run ε ω β) :
  K (deref o >>= f) ↔ ∀ a, o = some a → K (f a)
  := by
  cases o with
  | none => simpa [deref] using hK
  | some a => simp [deref]

theorem deref_bind_iff_exists (K : Run ε ω β → Prop) (hK : ¬ K crash)
    (o : Option α) (f : α → Run ε ω β) :
  K (deref o >>= f) ↔ ∃ a, o = some a ∧ K (f a)
  := by
  cases o with
  | none => simpa [deref] using hK
  | some a => simp [deref]

end Run

/-! ### Services -/

/-- What a call of a service that answers by a callback comes to. -/
inductive Reply (ε : Type u) (α : Type v) where
  | throws (e : ε)
  | now (a : α)
  | later (a : α)

namespace Reply

variable {ε ω : Type} {α β : Type}

/-- The answer, if there is one, has a property. -/
def All (P : α → Prop) : Reply ε α → Prop
  | throws _ => True
  | now a => P a
  | later a => P a

/-- There is an answer, and it has a property. -/
def Any (P : α → Prop) : Reply ε α → Prop
  | throws _ => False
  | now a => P a
  | later a => P a

/-- The answer has a property that depends on whether it comes later. -/
def Timed (now later : α → Prop) : Reply ε α → Prop
  | .throws _ => True
  | .now a => now a
  | .later a => later a

theorem timed_self (P : α → Prop) (r : Reply ε α) :
  r.Timed P P ↔ r.All P
  := by
  cases r <;> rfl

@[simp]
theorem all_true (r : Reply ε α) :
  r.All fun _ => True
  := by
  cases r <;> trivial

/-- Call a service. The event `note e` stands for an exception that ends in the thread of the
service. -/
def invoke (note : ε → ω) (r : Reply ε α) (callback : α → Run ε ω Unit) : Run ε ω Unit :=
  match r with
  | throws e => Run.throw e
  | now a => callback a
  | later a => (callback a).handle fun e => Run.emit (note e)

end Reply

/-! ### Counting events -/

namespace Run

variable {ε ω : Type} {α β : Type} (p : ω → Bool)

/-- The number of events of the kind. -/
def count (m : Run ε ω α) : Nat := m.trace.countP p

/-- The run shows exactly one event of the kind. -/
def Answers (m : Run ε ω α) : Prop := m.count p = 1

instance (m : Run ε ω α) : Decidable (m.Answers p) := inferInstanceAs (Decidable (_ = _))

/-- The run shows exactly one event of the kind, or throws without one. -/
def Settles (m : Run ε ω α) : Prop :=
  match m.outcome with
  | .error (.threw _) => m.count p = 0
  | _ => m.count p = 1

/-- A handler that shows one event completes exactly the runs that settle. -/
theorem answers_handle_iff {handler : ε → Run ε ω Unit}
    (hhandler : ∀ e, (handler e).Answers p) (m : Run ε ω Unit) :
  (m.handle handler).Answers p ↔ m.Settles p
  := by
  obtain ⟨outcome, trace⟩ := m
  cases outcome with
  | ok a => rfl
  | error stop =>
      cases stop with
      | crashed => rfl
      | threw e =>
          have := hhandler e
          simp only [Answers, count] at this
          simp only [Answers, Settles, handle, count, List.countP_append]
          omega

/-- A handler that shows no event completes exactly the runs that answer by themselves. -/
theorem settles_handle_iff {handler : ε → Run ε ω Unit}
    (hhandler : ∀ e, (handler e).count p = 0 ∧ (handler e).outcome = .ok ())
    (m : Run ε ω Unit) :
  (m.handle handler).Settles p ↔ m.Answers p
  := by
  obtain ⟨outcome, trace⟩ := m
  cases outcome with
  | ok a => rfl
  | error stop =>
      cases stop with
      | crashed => rfl
      | threw e =>
          obtain ⟨hcount, houtcome⟩ := hhandler e
          rw [count] at hcount
          simp only [Answers, Settles, handle, count, List.countP_append, houtcome, hcount]
          rfl

theorem answers_handle_emit_iff {note : ε → ω} (hnote : ∀ e, p (note e) = false)
    (m : Run ε ω Unit) :
  (m.handle fun e => emit (note e)).Answers p ↔ m.Answers p
  := by
  obtain ⟨outcome, trace⟩ := m
  cases outcome with
  | ok a => rfl
  | error stop =>
      cases stop with
      | crashed => rfl
      | threw e => simp [Answers, handle, count, emit, hnote]

@[simp]
theorem settles_throw (e : ε) :
  (throw e : Run ε ω α).Settles p
  := rfl

@[simp]
theorem not_answers_throw (e : ε) :
  ¬ (throw e : Run ε ω α).Answers p
  := Nat.zero_ne_one

@[simp]
theorem not_settles_crash :
  ¬ (crash : Run ε ω α).Settles p
  := Nat.zero_ne_one

@[simp]
theorem not_answers_crash :
  ¬ (crash : Run ε ω α).Answers p
  := Nat.zero_ne_one

@[simp]
theorem not_settles_pure (a : α) :
  ¬ (pure a : Run ε ω α).Settles p
  := Nat.zero_ne_one

@[simp]
theorem not_answers_pure (a : α) :
  ¬ (pure a : Run ε ω α).Answers p
  := Nat.zero_ne_one

@[simp]
theorem answers_emit {x : ω} :
  (emit x : Run ε ω Unit).Answers p ↔ p x
  := by
  cases h : p x <;> simp [Answers, count, emit, h]

@[simp]
theorem settles_emit {x : ω} :
  (emit x : Run ε ω Unit).Settles p ↔ p x
  := answers_emit p

theorem settles_emit_bind {x : ω} (hx : p x = false) (f : Unit → Run ε ω β) :
  (emit x >>= f).Settles p ↔ (f ()).Settles p
  := by
  simp only [emit_bind, Settles, count, List.countP_cons, hx, Bool.false_eq_true, if_false,
    Nat.add_zero]

theorem answers_emit_bind {x : ω} (hx : p x = false) (f : Unit → Run ε ω β) :
  (emit x >>= f).Answers p ↔ (f ()).Answers p
  := by
  simp only [emit_bind, Answers, count, List.countP_cons, hx, Bool.false_eq_true, if_false,
    Nat.add_zero]

@[simp]
theorem settles_require_bind (o : Option α) (e : ε) (f : α → Run ε ω β) :
  (require o e >>= f).Settles p ↔ ∀ a, o = some a → (f a).Settles p
  := require_bind_iff_forall _ (settles_throw p e) o f

@[simp]
theorem answers_require_bind (o : Option α) (e : ε) (f : α → Run ε ω β) :
  (require o e >>= f).Answers p ↔ ∃ a, o = some a ∧ (f a).Answers p
  := require_bind_iff_exists _ (not_answers_throw p e) o f

@[simp]
theorem settles_ofExcept_bind (x : Except ε α) (f : α → Run ε ω β) :
  (ofExcept x >>= f).Settles p ↔ ∀ a, x = .ok a → (f a).Settles p
  := ofExcept_bind_iff_forall _ (settles_throw p) x f

@[simp]
theorem answers_ofExcept_bind (x : Except ε α) (f : α → Run ε ω β) :
  (ofExcept x >>= f).Answers p ↔ ∃ a, x = .ok a ∧ (f a).Answers p
  := ofExcept_bind_iff_exists _ (not_answers_throw p) x f

@[simp]
theorem settles_deref_bind (o : Option α) (f : α → Run ε ω β) :
  (deref o >>= f).Settles p ↔ ∃ a, o = some a ∧ (f a).Settles p
  := deref_bind_iff_exists _ (not_settles_crash p) o f

@[simp]
theorem answers_deref_bind (o : Option α) (f : α → Run ε ω β) :
  (deref o >>= f).Answers p ↔ ∃ a, o = some a ∧ (f a).Answers p
  := deref_bind_iff_exists _ (not_answers_crash p) o f

theorem settles_ite (c : Prop) [Decidable c] (m n : Run ε ω α) :
  (if c then m else n).Settles p ↔ if c then m.Settles p else n.Settles p
  := by split <;> rfl

theorem answers_ite (c : Prop) [Decidable c] (m n : Run ε ω α) :
  (if c then m else n).Answers p ↔ if c then m.Answers p else n.Answers p
  := by split <;> rfl

theorem settles_whenSome (o : Option α) (f : α → Run ε ω Unit) :
  (whenSome o f).Settles p ↔ ∃ a, o = some a ∧ (f a).Settles p
  := by cases o <;> simp [whenSome]

theorem answers_whenSome (o : Option α) (f : α → Run ε ω Unit) :
  (whenSome o f).Answers p ↔ ∃ a, o = some a ∧ (f a).Answers p
  := by cases o <;> simp [whenSome]

variable {p}

/-- A call of a service settles when its callback settles at once, or answers later. -/
theorem settles_invoke {note : ε → ω} (hnote : ∀ e, p (note e) = false) (r : Reply ε α)
    (callback : α → Run ε ω Unit) :
  (r.invoke note callback).Settles p
    ↔ r.Timed (fun a => (callback a).Settles p) (fun a => (callback a).Answers p)
  := by
  cases r with
  | throws e => simp [Reply.invoke, Reply.Timed]
  | now a => rfl
  | later a =>
      apply settles_handle_iff
      intro e
      simp [emit, count, hnote]

/-- A call of a service answers when its callback does. -/
theorem answers_invoke {note : ε → ω} (hnote : ∀ e, p (note e) = false) (r : Reply ε α)
    (callback : α → Run ε ω Unit) :
  (r.invoke note callback).Answers p ↔ r.Any fun a => (callback a).Answers p
  := by
  cases r with
  | throws e => simp [Reply.invoke, Reply.Any]
  | now a => rfl
  | later a => apply answers_handle_emit_iff p hnote

end Run

/-! ### Properties of all events -/

namespace Run

variable {ε ω : Type} {α β : Type} (p : ω → Prop)

/-- Every event of the run has the property. -/
def Always (m : Run ε ω α) : Prop := ∀ x ∈ m.trace, p x

variable {p}

theorem always_of_nil {m : Run ε ω α} (h : m.trace = []) :
  m.Always p
  := by
  intro x hx
  rw [h] at hx
  cases hx

theorem always_emit {x : ω} (h : p x) :
  (emit x : Run ε ω Unit).Always p
  := by
  intro y hy
  obtain rfl := List.mem_singleton.mp hy
  exact h

theorem always_bind {m : Run ε ω α} {f : α → Run ε ω β} (hm : m.Always p)
    (hf : ∀ a, m.outcome = .ok a → (f a).Always p) :
  (m >>= f).Always p
  := by
  obtain ⟨outcome, trace⟩ := m
  cases outcome with
  | error stop => exact hm
  | ok a =>
      intro x hx
      obtain hx | hx := List.mem_append.mp hx
      · apply hm x hx
      · apply hf a rfl x hx

theorem always_require_bind (o : Option α) {e : ε} {f : α → Run ε ω β}
    (hf : ∀ a, (f a).Always p) :
  (require o e >>= f).Always p
  := (require_bind_iff_forall _ (always_of_nil rfl) o f).mpr fun a _ => hf a

theorem always_ofExcept_bind (x : Except ε α) {f : α → Run ε ω β} (hf : ∀ a, (f a).Always p) :
  (ofExcept x >>= f).Always p
  := (ofExcept_bind_iff_forall _ (fun _ => always_of_nil rfl) x f).mpr fun a _ => hf a

theorem always_deref_bind (o : Option α) {f : α → Run ε ω β} (hf : ∀ a, (f a).Always p) :
  (deref o >>= f).Always p
  := (deref_bind_iff_forall _ (always_of_nil rfl) o f).mpr fun a _ => hf a

theorem always_whenSome (o : Option α) {f : α → Run ε ω Unit} (hf : ∀ a, (f a).Always p) :
  (whenSome o f).Always p
  := by
  cases o with
  | none =>
      apply always_of_nil
      rfl
  | some a => apply hf

theorem always_ite {c : Prop} [Decidable c] {m n : Run ε ω α} (hm : m.Always p)
    (hn : n.Always p) :
  (if c then m else n).Always p
  := by
  split
  · exact hm
  · exact hn

theorem always_handle {m : Run ε ω Unit} {handler : ε → Run ε ω Unit} (hm : m.Always p)
    (hhandler : ∀ e, (handler e).Always p) :
  (m.handle handler).Always p
  := by
  obtain ⟨outcome, trace⟩ := m
  cases outcome with
  | ok a => exact hm
  | error stop =>
      cases stop with
      | crashed => exact hm
      | threw e =>
          intro x hx
          obtain hx | hx := List.mem_append.mp hx
          · apply hm x hx
          · apply hhandler e x hx

theorem always_invoke {note : ε → ω} (hnote : ∀ e, p (note e)) (r : Reply ε α)
    {callback : α → Run ε ω Unit} (h : ∀ a, (callback a).Always p) :
  (r.invoke note callback).Always p
  := by
  cases r with
  | throws e =>
      apply always_of_nil
      rfl
  | now a => apply h
  | later a =>
      apply always_handle (h a)
      intro e
      apply always_emit (hnote e)

end Run

/-! ### Events and exceptions of a part of a run -/

namespace Run

variable {ε ω : Type} {α β : Type}

/-- If the events of the run are among those of a whole one, they have a property, and so has
what the run throws. -/
def Within (whole : List ω) (p : ω → Prop) (q : ε → Prop) (m : Run ε ω α) : Prop :=
  m.trace ⊆ whole → m.Always p ∧ ∀ e, m.outcome = .error (.threw e) → q e

variable {whole : List ω} {p : ω → Prop} {q : ε → Prop}

theorem within_of_nil {m : Run ε ω α} (htrace : m.trace = [])
    (hthrows : ∀ e, m.outcome = .error (.threw e) → q e) :
  m.Within whole p q
  := by
  intro _
  exact ⟨always_of_nil htrace, hthrows⟩

theorem within_pure (a : α) :
  (pure a : Run ε ω α).Within whole p q
  := by
  apply within_of_nil rfl
  intro e h
  cases h

theorem within_throw {e : ε} (he : q e) :
  (throw e : Run ε ω α).Within whole p q
  := by
  apply within_of_nil rfl
  intro e' h
  cases h
  exact he

theorem within_crash :
  (crash : Run ε ω α).Within whole p q
  := by
  apply within_of_nil rfl
  intro e h
  cases h

theorem within_emit {x : ω} (hx : x ∈ whole → p x) :
  (emit x : Run ε ω Unit).Within whole p q
  := by
  intro hwhole
  constructor
  · apply always_emit
    apply hx (hwhole List.mem_cons_self)
  · intro e h
    cases h

/-- An event is one of the whole run for what follows it. -/
theorem within_emit_bind {x : ω} {f : Unit → Run ε ω β} (hx : x ∈ whole → p x)
    (hf : x ∈ whole → (f ()).Within whole p q) :
  (emit x >>= f).Within whole p q
  := by
  intro hwhole
  rw [emit_bind] at hwhole ⊢
  obtain ⟨hmem, hrest⟩ := List.cons_subset.mp hwhole
  obtain ⟨halways, hthrows⟩ := hf hmem hrest
  constructor
  · intro y hy
    obtain rfl | hy := List.mem_cons.mp hy
    · apply hx hmem
    · apply halways y hy
  · apply hthrows

theorem within_require_bind {o : Option α} {e : ε} {f : α → Run ε ω β} (he : o = none → q e)
    (hf : ∀ a, o = some a → (f a).Within whole p q) :
  (require o e >>= f).Within whole p q
  := by
  cases o with
  | none => apply within_throw (he rfl)
  | some a => apply hf a rfl

theorem within_deref_bind {o : Option α} {f : α → Run ε ω β}
    (hf : ∀ a, o = some a → (f a).Within whole p q) :
  (deref o >>= f).Within whole p q
  := by
  cases o with
  | none => apply within_crash
  | some a => apply hf a rfl

theorem within_whenSome {o : Option α} {f : α → Run ε ω Unit}
    (hf : ∀ a, o = some a → (f a).Within whole p q) :
  (whenSome o f).Within whole p q
  := by
  cases o with
  | none => apply within_pure
  | some a => apply hf a rfl

theorem within_ite {c : Prop} [Decidable c] {m n : Run ε ω α} (hm : c → m.Within whole p q)
    (hn : ¬ c → n.Within whole p q) :
  (if c then m else n).Within whole p q
  := by
  split
  · apply hm ‹_›
  · apply hn ‹_›

/-- A handler gets exceptions that have the property. -/
theorem within_handle {m : Run ε ω Unit} {handler : ε → Run ε ω Unit} {r : ε → Prop}
    (hm : m.Within whole p r) (hhandler : ∀ e, r e → (handler e).Within whole p q) :
  (m.handle handler).Within whole p q
  := by
  obtain ⟨outcome, trace⟩ := m
  cases outcome with
  | ok a =>
      intro hwhole
      use (hm hwhole).1
      intro e h
      cases h
  | error stop =>
      cases stop with
      | crashed =>
          intro hwhole
          use (hm hwhole).1
          intro e h
          cases h
      | threw e =>
          intro hwhole
          obtain ⟨hleft, hright⟩ := List.append_subset.mp hwhole
          obtain ⟨halways, hthrows⟩ := hm hleft
          obtain ⟨halways', hthrows'⟩ := hhandler e (hthrows e rfl) hright
          constructor
          · intro x hx
            obtain hx | hx := List.mem_append.mp hx
            · apply halways x hx
            · apply halways' x hx
          · apply hthrows'

/-- A call of a service shows what its callback does, and throws that or its own exception. -/
theorem within_invoke {note : ε → ω} (hnote : ∀ e, q e → p (note e)) (r : Reply ε α)
    {callback : α → Run ε ω Unit} (hthrows : ∀ e, r = .throws e → q e)
    (h : ∀ a, (callback a).Within whole p q) :
  (r.invoke note callback).Within whole p q
  := by
  cases r with
  | throws e => apply within_throw (hthrows e rfl)
  | now a => apply h
  | later a =>
      apply within_handle (h a)
      intro e he
      apply within_emit
      intro _
      apply hnote e he

end Run
