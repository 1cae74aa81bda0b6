import Mathlib.Tactic.Common

/-!
# Decoders

A decoder assigns to the parts of an object while it reads, and what it has assigned stays when
it throws later. `AllOrNothing` says of a decoder, for one text, that a failure leaves the
object as it was and that the object after a success does not depend on the one before.
-/

/-- A reader that throws texts and assigns to an object. -/
abbrev Decoding (σ α : Type) : Type := ExceptT String (StateM σ) α

namespace Decoding

variable {σ α β : Type}

/-- The outcome of a reader and the object after it. -/
def into (m : Decoding σ α) (s : σ) : Except String α × σ := m.run.run s

@[simp]
theorem into_modify_bind (g : σ → σ) (f : PUnit → Decoding σ β) (s : σ) :
  into (modify g >>= f) s = (f ⟨⟩).into (g s)
  := rfl

theorem into_bind (m : Decoding σ α) (f : α → Decoding σ β) (s : σ) :
  into (m >>= f) s
    = match m.into s with
      | (.ok a, s') => (f a).into s'
      | (.error e, s') => (.error e, s')
  := by
  cases h : m.into s with
  | mk outcome s' =>
      have hrun : into (m >>= f) s = (ExceptT.bindCont f (m.into s).1).run (m.into s).2 := rfl
      rw [hrun, h]
      cases outcome <;> rfl

@[simp]
theorem into_liftM (x : Except String α) (s : σ) :
  into (liftM x) s = (x, s)
  := rfl

theorem liftM_ok_bind (a : α) (f : α → Decoding σ β) :
  (liftM (Except.ok a : Except String α) >>= f) = f a
  := rfl

/-! ### Success -/

theorem into_bind_eq_ok_iff {m : Decoding σ α} {f : α → Decoding σ β} {s s' : σ} {b : β} :
  into (m >>= f) s = (.ok b, s')
    ↔ ∃ a s₁, m.into s = (.ok a, s₁) ∧ (f a).into s₁ = (.ok b, s')
  := by
  rw [into_bind]
  obtain ⟨outcome, s₁⟩ := m.into s
  cases outcome with
  | error e => simp
  | ok a => simp

theorem into_liftM_bind_eq_ok_iff {x : Except String α} {f : α → Decoding σ β} {s s' : σ}
    {b : β} :
  into (liftM x >>= f) s = (.ok b, s') ↔ ∃ a, x = .ok a ∧ (f a).into s = (.ok b, s')
  := by
  rw [into_bind, into_liftM]
  cases x <;> simp

/-! ### What is kept -/

/-- The reader keeps a property of the object, whatever becomes of it. -/
def Keeps (P : σ → Prop) (m : Decoding σ α) : Prop := ∀ s, P s → P (m.into s).2

variable {P : σ → Prop}

theorem keeps_pure (a : α) :
  Keeps P (pure a)
  := fun _ h => h

theorem keeps_liftM (x : Except String α) :
  Keeps P (liftM x : Decoding σ α)
  := fun _ h => h

theorem keeps_modify {g : σ → σ} (hg : ∀ s, P s → P (g s)) :
  Keeps P (modify g : Decoding σ PUnit)
  := hg

theorem keeps_bind {m : Decoding σ α} {f : α → Decoding σ β} (hm : Keeps P m)
    (hf : ∀ a, Keeps P (f a)) :
  Keeps P (m >>= f)
  := by
  intro s hs
  have hkept := hm s hs
  rw [into_bind]
  generalize m.into s = r at hkept ⊢
  obtain ⟨outcome, s₁⟩ := r
  cases outcome with
  | error e => exact hkept
  | ok a => apply hf a s₁ hkept

theorem keeps_liftM_bind {x : Except String α} {f : α → Decoding σ β}
    (hf : ∀ a, Keeps P (f a)) :
  Keeps P (liftM x >>= f)
  := keeps_bind (keeps_liftM x) hf

theorem keeps_modify_bind {g : σ → σ} {f : PUnit → Decoding σ β} (hg : ∀ s, P s → P (g s))
    (hf : Keeps P (f ⟨⟩)) :
  Keeps P (modify g >>= f)
  := keeps_bind (keeps_modify hg) fun _ => hf

theorem keeps_ite {c : Prop} [Decidable c] {m n : Decoding σ α} (hm : Keeps P m)
    (hn : Keeps P n) :
  Keeps P (if c then m else n)
  := by
  split
  · apply hm
  · apply hn

end Decoding

/-! ### All or nothing -/

/-- For objects of a kind: when the decoding reports a failure the object is unchanged, and
when it reports success the object does not depend on what it was. -/
structure AllOrNothing {σ : Type} (objects : σ → Prop) (decode : σ → σ × Bool) : Prop where
  unchanged : ∀ s, objects s → (decode s).2 = false → (decode s).1 = s
  forgetful : ∀ s₁ s₂, objects s₁ → objects s₂ → (decode s₁).2 = true → (decode s₂).2 = true →
    (decode s₁).1 = (decode s₂).1

namespace AllOrNothing

variable {σ : Type} {objects : σ → Prop} {decode : σ → σ × Bool}

theorem of_failure (h : ∀ s, decode s = (s, false)) :
  AllOrNothing objects decode
  := by
  constructor
  · intro s _ _
    rw [h]
  · intro s₁ s₂ _ _ h₁ _
    rw [h] at h₁
    cases h₁

theorem of_success (s' : σ) (h : ∀ s, objects s → decode s = (s', true)) :
  AllOrNothing objects decode
  := by
  constructor
  · intro s hs hfalse
    rw [h s hs] at hfalse
    cases hfalse
  · intro s₁ s₂ hs₁ hs₂ _ _
    rw [h s₁ hs₁, h s₂ hs₂]

end AllOrNothing
