import DataGateway.Fault

/-!
# Actions

Steps that may change a state and may fail. A failed step keeps the changes that it made before.
-/

namespace DataGateway

/-- A step on a state that may fail. -/
abbrev Action (σ α : Type) := ExceptT Fault (StateM σ) α

namespace Action

variable {σ τ α : Type}

def fail (fault : Fault) : Action σ α := throw fault

/-- Takes a result over. -/
def ofExcept (result : Except Fault α) : Action σ α := ExceptT.mk (pure result)

/-- Runs a step and hands out its failure as a result. -/
def attempt (step : Action σ α) : Action σ (Except Fault α) :=
  ExceptT.mk (Except.ok <$> step.run)

/-- Runs a step and then, however it ended, another one, whose failure counts more. -/
def ensuring (step : Action σ α) (after : Action σ Unit) : Action σ α := do
  let result ← step.attempt
  after
  ofExcept result

/-- Runs a step on a part of the state. -/
def onPart (get : σ → τ) (set : σ → τ → σ) (step : Action τ α) : Action σ α :=
  fun s =>
    let (result, part) := step (get s)
    (result, set s part)

end Action

end DataGateway
