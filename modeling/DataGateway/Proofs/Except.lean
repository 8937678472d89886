import Mathlib.Logic.Basic

/-!
# Steps that can fail

What it takes for a chain of steps to end well: every step of it ends well; and to fail: one step fails
behind others that end well. Two chains end alike when their steps do, one by one.
-/

namespace DataGateway

variable {ε α β : Type}

theorem ok_bind (a : α) (f : α → Except ε β) : (Except.ok a >>= f) = f a := rfl

theorem bind_eq_ok_iff {x : Except ε α} {f : α → Except ε β} {b : β} :
    (x >>= f) = .ok b ↔ ∃ a, x = .ok a ∧ f a = .ok b := by
  cases x <;> simp [bind, Except.bind]

theorem bind_eq_error_iff {x : Except ε α} {f : α → Except ε β} {e : ε} :
    (x >>= f) = .error e ↔ x = .error e ∨ ∃ a, x = .ok a ∧ f a = .error e := by
  cases x <;> simp [bind, Except.bind]

/-- A check before a step lets the step end well or not at all. -/
theorem check_eq_ok_iff {x : Except ε Unit} {y : Except ε α} {a : α} :
    (do
      x
      y) = .ok a ↔ x = .ok () ∧ y = .ok a := by
  cases x <;> simp [bind, Except.bind]

theorem map_eq_ok_iff {x : Except ε α} {f : α → β} {b : β} :
    f <$> x = .ok b ↔ ∃ a, x = .ok a ∧ f a = b := by
  cases x <;> simp [Functor.map, Except.map]

theorem guard_eq_ok_iff {c : Prop} [Decidable c] {e : ε} {x : Except ε α} {a : α} :
    (do
      if c then throw e
      x) = .ok a ↔ ¬c ∧ x = .ok a := by
  by_cases h : c <;> simp [h, bind, Except.bind, throw, throwThe, MonadExceptOf.throw]

/-! ## Two runs -/

/-- Two runs end alike: in the same failure, or in results that are related. -/
inductive EndAlike (R : α → β → Prop) : Except ε α → Except ε β → Prop where
  | failed (e : ε) : EndAlike R (.error e) (.error e)
  | ended {a : α} {b : β} : R a b → EndAlike R (.ok a) (.ok b)

section EndAlike

variable {γ δ : Type} {R : α → β → Prop} {S : γ → δ → Prop} {x : Except ε α} {y : Except ε β}

theorem EndAlike.bind {f : α → Except ε γ} {g : β → Except ε δ} (first : EndAlike R x y)
    (next : ∀ a b, R a b → EndAlike S (f a) (g b)) : EndAlike S (x >>= f) (y >>= g) := by
  cases first with
  | failed e => exact .failed e
  | ended related => exact next _ _ related

/-- A step that both runs share makes no difference. -/
theorem EndAlike.after {f : α → Except ε γ} {g : α → Except ε δ}
    (next : ∀ a, EndAlike S (f a) (g a)) : EndAlike S (x >>= f) (x >>= g) := by
  cases x with
  | error e => exact .failed e
  | ok a => exact next a

/-- Two runs that are stopped for the same reason. -/
theorem EndAlike.guard {c d : Prop} [Decidable c] [Decidable d] {e : ε} (same : c ↔ d)
    (rest : EndAlike R x y) :
    EndAlike R
      (do
        if c then throw e
        x)
      (do
        if d then throw e
        y) := by
  by_cases stopped : c
  · rw [if_pos stopped, if_pos (same.1 stopped)]
    exact .failed e
  · rw [if_neg stopped, if_neg (mt same.2 stopped)]
    exact rest

theorem EndAlike.of_map_eq {f : α → γ} {g : β → γ} (same : f <$> x = g <$> y) :
    EndAlike (fun a b => f a = g b) x y := by
  cases x with
  | error e =>
      cases y with
      | error e' =>
          cases same
          exact .failed e
      | ok b => cases same
  | ok a =>
      cases y with
      | error e => cases same
      | ok b => exact .ended (Except.ok.inj same)

end EndAlike

end DataGateway
