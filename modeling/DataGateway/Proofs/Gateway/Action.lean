import DataGateway.Gateway.Action
import Mathlib.Order.Defs.Unbundled

/-!
# Runs of actions

How a chain of steps runs, and what a chain leaves alone.

* `bind_ok`, `bind_error` — a chain that ends well or badly, taken apart at its first step;
* `Moves R step` — whatever the step does, the states before and after it are related;
* `Keeps holds` — the relation of the states before and after a step that leaves a fact true;
* `Fixes view step` — the view of the state stays as it was.
-/

namespace DataGateway.Action

variable {σ γ α β : Type}

/-! ## Chains -/

theorem attempt_apply (step : Action σ α) (s : σ) :
    step.attempt s = (.ok (step s).1, (step s).2) := rfl

theorem bind_of_ok {x : Action σ α} {f : α → Action σ β} {s t : σ} {a : α} (h : x s = (.ok a, t)) :
    (x >>= f) s = f a t := by
  simp only [bind, ExceptT.bind, ExceptT.mk, StateT.bind, h, ExceptT.bindCont]

theorem bind_of_error {x : Action σ α} {f : α → Action σ β} {s t : σ} {fault : Fault}
    (h : x s = (.error fault, t)) : (x >>= f) s = (.error fault, t) := by
  simp only [bind, ExceptT.bind, ExceptT.mk, StateT.bind, h, ExceptT.bindCont]
  rfl

theorem bind_get (f : σ → Action σ β) (s : σ) : (get >>= f) s = f s s := rfl

/-- What comes behind a step sees only how the step ended. -/
theorem bind_congr {x y : Action σ α} {s t : σ} (same : x s = y t) (f : α → Action σ β) :
    (x >>= f) s = (y >>= f) t := by
  simp only [bind, ExceptT.bind, ExceptT.mk, StateT.bind, same]

theorem ofExcept_bind_ok {result : Except Fault α} {a : α} (h : result = .ok a)
    (f : α → Action σ β) (s : σ) : (ofExcept result >>= f) s = f a s := by
  rw [h]
  rfl

theorem ofExcept_bind_error {result : Except Fault α} {fault : Fault} (h : result = .error fault)
    (f : α → Action σ β) (s : σ) : (ofExcept result >>= f) s = (.error fault, s) := by
  rw [h]
  rfl

/-- A step that only works out a result leaves the state to the one before it. -/
theorem bind_ofExcept (x : Action σ α) (f : α → Except Fault β) (s : σ) :
    (x >>= fun a => ofExcept (f a)) s = ((x s).1 >>= f, (x s).2) := by
  rcases ran : x s with ⟨result, t⟩
  cases result with
  | error fault => exact bind_of_error ran
  | ok a => exact bind_of_ok ran

theorem ofExcept_ran {result given : Except Fault α} {s t : σ} (ran : ofExcept result s = (given, t)) :
    result = given ∧ s = t := Prod.mk.inj ran

/-- Two steps end where the first one fails, or where the second one ends after it. -/
theorem bind_cases {x : Action σ α} {f : α → Action σ β} {s u : σ} {result : Except Fault β}
    (h : (x >>= f) s = (result, u)) :
    (∃ fault, x s = (.error fault, u) ∧ result = .error fault) ∨
      ∃ a t, x s = (.ok a, t) ∧ f a t = (result, u) := by
  rcases first : x s with ⟨fault | a, t⟩
  · rw [bind_of_error first] at h
    cases h
    exact .inl ⟨fault, rfl, rfl⟩
  · rw [bind_of_ok first] at h
    exact .inr ⟨a, t, rfl, h⟩

theorem bind_ok {x : Action σ α} {f : α → Action σ β} {s u : σ} {b : β}
    (h : (x >>= f) s = (.ok b, u)) : ∃ a t, x s = (.ok a, t) ∧ f a t = (.ok b, u) := by
  rcases bind_cases h with ⟨_, _, failed⟩ | went
  · cases failed
  · exact went

theorem bind_error {x : Action σ α} {f : α → Action σ β} {s u : σ} {fault : Fault}
    (h : (x >>= f) s = (.error fault, u)) :
    x s = (.error fault, u) ∨ ∃ a t, x s = (.ok a, t) ∧ f a t = (.error fault, u) := by
  rcases bind_cases h with ⟨_, stopped, ⟨⟩⟩ | went
  · exact .inl stopped
  · exact .inr went

/-- Is this all that the step hands out when it ends well? -/
def Yields (b : β) (step : Action σ β) : Prop := ∀ s t a, step s = (.ok a, t) → a = b

theorem Yields.pure (b : β) : Yields b (Pure.pure b : Action σ β) := by
  rintro s t a ⟨⟩
  rfl

/-- The last step of a chain is the one that counts. -/
theorem Yields.bind {x : Action σ α} {f : α → Action σ β} {b : β} (last : ∀ a, Yields b (f a)) :
    Yields b (x >>= f) := by
  intro s u c ran
  rcases bind_ok ran with ⟨a, t, _, ended⟩
  exact last a t u c ended

theorem map_eq_bind (g : α → β) (x : Action σ α) : g <$> x = x >>= fun a => pure (g a) :=
  map_eq_pure_bind g x

/-- A step that does nothing to the state leaves it to the first one. -/
theorem bind_idle {x : Action σ α} {f : α → Action σ β} (idle : ∀ a t, (f a t).2 = t) (s : σ) :
    ((x >>= f) s).2 = (x s).2 := by
  rcases ran : x s with ⟨result, t⟩
  cases result with
  | error fault => rw [bind_of_error ran]
  | ok a =>
      rw [bind_of_ok ran]
      exact idle a t

theorem ensuring_apply {step : Action σ α} {last : Action σ Unit} {s t u : σ}
    {result : Except Fault α} (ran : step s = (result, t)) (ended : last t = (.ok (), u)) :
    step.ensuring last s = (result, u) := by
  have attempted : step.attempt s = (.ok result, t) := by rw [attempt_apply, ran]
  rw [ensuring, bind_of_ok attempted, bind_of_ok ended]
  rfl

/-- The last step runs on the state that the first one leaves, however it ended. -/
theorem ensuring_state (step : Action σ α) (last : Action σ Unit) (s : σ) :
    (step.ensuring last s).2 = (last (step s).2).2 := by
  have attempted : step.attempt s = (.ok (step s).1, (step s).2) := attempt_apply step s
  rw [ensuring, bind_of_ok attempted]
  exact bind_idle (fun _ _ => rfl) _

/-! ## How the state moves -/

/-- Whatever the step does, the states before and after it are related. -/
def Moves (R : σ → σ → Prop) (step : Action σ α) : Prop := ∀ s, R s (step s).2

section Moves

variable {R : σ → σ → Prop}

theorem Moves.after {step : Action σ α} (h : Moves R step) {s t : σ} {result : Except Fault α}
    (ran : step s = (result, t)) : R s t := by
  have moved := h s
  rwa [ran] at moved

theorem Moves.modify {f : σ → σ} (moved : ∀ s, R s (f s)) :
    Moves R (modify f : Action σ PUnit) := moved

theorem Moves.attempt {step : Action σ α} (h : Moves R step) : Moves R step.attempt :=
  fun s => h s

theorem Moves.pure [Std.Refl R] (a : α) : Moves R (Pure.pure a : Action σ α) := refl_of R

theorem Moves.ofExcept [Std.Refl R] (result : Except Fault α) : Moves R (Action.ofExcept result) :=
  refl_of R

theorem Moves.fail [Std.Refl R] (fault : Fault) : Moves R (Action.fail fault : Action σ α) :=
  refl_of R

theorem Moves.get [Std.Refl R] : Moves R (MonadState.get : Action σ σ) := refl_of R

theorem Moves.bind [IsTrans σ R] {x : Action σ α} {f : α → Action σ β} (first : Moves R x)
    (next : ∀ a, Moves R (f a)) : Moves R (x >>= f) := by
  intro s
  rcases ran : x s with ⟨result, t⟩
  have moved := first.after ran
  cases result with
  | error fault =>
      rw [bind_of_error ran]
      exact moved
  | ok a =>
      rw [bind_of_ok ran]
      exact trans_of R moved (next a t)

theorem Moves.map [IsPreorder σ R] (g : α → β) {x : Action σ α} (first : Moves R x) :
    Moves R (g <$> x) := by
  rw [map_eq_bind]
  exact first.bind fun a => .pure (g a)

end Moves

/-- What holds before holds afterwards. -/
def Keeps (holds : σ → Prop) (s t : σ) : Prop := holds s → holds t

instance (holds : σ → Prop) : IsPreorder σ (Keeps holds) where
  refl _ := id
  trans _ _ _ first next := next ∘ first

/-! ## What stays -/

/-- Are two states the same in a view? -/
def SameView (view : σ → γ) (s t : σ) : Prop := view t = view s

instance (view : σ → γ) : IsPreorder σ (SameView view) where
  refl _ := rfl
  trans _ _ _ first next := Eq.trans next first

/-- Whatever the step does, the view of the state stays as it was. -/
def Fixes (view : σ → γ) (step : Action σ α) : Prop := ∀ s, view (step s).2 = view s

variable {view : σ → γ}

theorem Fixes.moves {step : Action σ α} (h : Fixes view step) : Moves (SameView view) step := h

theorem Moves.fixes {step : Action σ α} (h : Moves (SameView view) step) : Fixes view step := h

theorem Fixes.after {step : Action σ α} (h : Fixes view step) {s t : σ} {result : Except Fault α}
    (ran : step s = (result, t)) : view t = view s := h.moves.after ran

theorem Fixes.comp {δ : Type} {step : Action σ α} (h : Fixes view step) (f : γ → δ) :
    Fixes (fun s => f (view s)) step := fun s => congrArg f (h s)

theorem Fixes.pure (a : α) : Fixes view (Pure.pure a : Action σ α) := fun _ => rfl

theorem Fixes.ofExcept (result : Except Fault α) : Fixes view (Action.ofExcept result) :=
  fun _ => rfl

theorem Fixes.fail (fault : Fault) : Fixes view (Action.fail fault : Action σ α) := fun _ => rfl

theorem Fixes.get : Fixes view (MonadState.get : Action σ σ) := fun _ => rfl

theorem Fixes.modify {f : σ → σ} (kept : ∀ s, view (f s) = view s) :
    Fixes view (modify f : Action σ PUnit) := kept

theorem Fixes.bind {x : Action σ α} {f : α → Action σ β} (first : Fixes view x)
    (next : ∀ a, Fixes view (f a)) : Fixes view (x >>= f) :=
  (first.moves.bind fun a => (next a).moves).fixes

theorem Fixes.map {x : Action σ α} (g : α → β) (first : Fixes view x) : Fixes view (g <$> x) :=
  (first.moves.map g).fixes

end DataGateway.Action
