import DataGateway.Proofs.Relational.Discipline

/-!
# Durability of statements

What the answer to a command says about its commit. Rows are only answered after a commit; but a
failure says nothing of the kind, because the rows are read when the commit is done.

* `Call.Stops` — a step up to the reading of the rows failed;
* `Pool.serve_commits` — rows mean a commit, and a command that stops has committed exactly if it
  was the reading of the rows that failed;
* `Pool.serve_lostRows` — a command that fails with a commit.
-/

namespace DataGateway.Relational

open Sql

/-- The command came to nothing, or something failed before its rows were read. -/
def Call.Stops (call : Call) (trace : List Event) : Prop :=
  call.IsRefused ∨ call.Fails .connect trace ∨ call.Breaks trace

section Serves

variable {call : Call} {text : String} {arguments : List Argument} {trace events : List Event}
  {result : Except Fault Value} {rows : Value} {fault : Fault}

/-- Before the commit nothing was committed, and no rows were read. -/
theorem commits_iff_of_unreached (commit : .commit ∉ stepsIn trace) (fetch : .fetch ∉ stepsIn trace) :
    call.Succeeds .commit trace ↔ call.Misreads trace := by
  apply iff_of_false
  · intro succeeds
    exact commit succeeds.1
  · intro misreads
    exact fetch (misreads.elim And.left fun read => read.1.1)

/-- A statement that answers rows was committed. -/
theorem Works.commits (h : Works call text arguments events (.ok rows)) :
    call.Succeeds .commit events := by
  cases h with
  | silent _ commits _ | read _ commits _ _ _ => exact ⟨by simp [stepsIn, Event.step?], commits⟩

/-- A statement that fails was committed only if it failed after that. -/
theorem Works.commits_iff (h : Works call text arguments events (.error fault)) :
    call.Succeeds .commit events ↔ call.Misreads events := by
  cases h with
  | unexecuted _ =>
      apply commits_iff_of_unreached <;> simp [stepsIn, Event.step?]
  | uncommitted _ commits =>
      simp [Call.Misreads, Call.Fails, Call.Succeeds, stepsIn, Event.step?, commits]
  | unfetched _ commits _ fetches =>
      simp [Call.Misreads, Call.Fails, Call.Succeeds, stepsIn, Event.step?, commits, fetches]
  | unread _ commits answers fetches reads =>
      simp [Call.Misreads, Call.Fails, Call.Succeeds, Call.Unreadable, stepsIn, Event.step?, commits,
        answers, fetches, reads]

/-- A transaction that was undone answers no rows, whatever the return of the connection does. -/
theorem undone_error (call : Call) (fault : Fault) :
    ∃ last, call.handedBack (call.undone fault) = .error last := by
  unfold Call.handedBack
  cases call.failure .giveBack with
  | some last => exact ⟨last, rfl⟩
  | none => exact ⟨_, rfl⟩

/-- Rows mean that the statement was committed. -/
theorem Serves.commits (h : Serves call trace (.ok rows)) : call.Succeeds .commit trace := by
  generalize answered : (Except.ok rows : Except Fault Value) = result at h
  cases h with
  | refused _ | unconnected _ _ => cases answered
  | @unopened _ fault _ _ _ | @undone _ _ _ fault _ _ _ _ =>
      rcases undone_error call fault with ⟨last, failed⟩
      rw [failed] at answered
      cases answered
  | @finished _ _ events rows _ _ _ works =>
      have commits : call.Succeeds .commit (around (.ok rows) events) :=
        (succeeds_around_iff (.inr (.inl rfl))).2 works.commits
      exact commits

/-- A step that fails up to the reading of the rows makes the command fail, and the commit stands if
the reading of the rows is what failed. -/
theorem Serves.commits_iff (h : Serves call trace result) (stops : call.Stops trace) :
    (∃ fault, result = .error fault) ∧ (call.Succeeds .commit trace ↔ call.Misreads trace) := by
  cases h with
  | refused _ =>
      exact ⟨⟨_, rfl⟩, commits_iff_of_unreached List.not_mem_nil List.not_mem_nil⟩
  | unconnected _ _ =>
      exact ⟨⟨_, rfl⟩, commits_iff_of_unreached (by decide) (by decide)⟩
  | @unopened _ fault _ _ _ =>
      exact ⟨undone_error call fault, commits_iff_of_unreached (by decide) (by decide)⟩
  | @undone text arguments events fault _ _ _ works =>
      have commit : call.Succeeds .commit (around (.error fault) events) ↔
          call.Misreads (around (.error fault) events) := by
        rw [succeeds_around_iff (.inr (.inl rfl)), misreads_around_iff]
        exact works.commits_iff
      exact ⟨undone_error call fault, commit⟩
  | @finished text arguments events rows formed connects opens works =>
      -- nothing failed, so the command did not stop
      have whole : ¬call.Breaks (around (.ok rows) events) := fun breaks => by
        simpa using (breaks_around_iff opens works).1 breaks
      rcases stops with refused | failed | breaks
      · exact absurd refused (not_isRefused formed)
      · exact absurd connects failed.2
      · exact absurd breaks whole

end Serves

namespace Pool

/-- Rows are only answered when the commit succeeded. A command one of whose steps up to the reading of
the rows failed is answered with a fault, and its commit took effect if and only if the rows were
what failed: they were not fetched, or one of them is no record. -/
theorem serve_commits (pool : Pool) (call : Call) :
    (∀ rows, (pool.serve call).1 = .ok rows → call.Succeeds .commit (pool.traceOf call)) ∧
      (call.Stops (pool.traceOf call) →
        (∃ fault, (pool.serve call).1 = .error fault) ∧
          (call.Succeeds .commit (pool.traceOf call) ↔ call.Misreads (pool.traceOf call))) := by
  have serves := (pool.serves_serve call).1
  constructor
  · intro rows answered
    rw [answered] at serves
    exact serves.commits
  · intro stops
    exact serves.commits_iff stops

/-- A server that goes away. -/
def disconnection : Incident where
  kind := .operational
  text := "server closed the connection"

/-- A statement whose rows are lost on their way back. -/
def lostRows : Call where
  command := ⟨"INSERT INTO notes (title) VALUES ($1) RETURNING *", [.plain (.text "a")]⟩
  failure
    | .fetch => some (.incident disconnection)
    | _ => none
  rows := some [.object [("id", .int 1), ("title", .text "a")]]

/-- The insertion fails, and still it has been committed. -/
theorem serve_lostRows :
    (Pool.serve {} lostRows).1 = .error (.incident disconnection) ∧
      lostRows.Fails .fetch (Pool.traceOf {} lostRows) ∧
        lostRows.Succeeds .commit (Pool.traceOf {} lostRows) := by
  have trace : Pool.traceOf {} lostRows = [.connected, .cursorOpened,
      .executed "INSERT INTO notes (title) VALUES (%s) RETURNING *" [.plain (.text "a")], .committed,
      .fetched, .cursorClosed, .rolledBack, .givenBack] := by
    rfl
  rw [trace]
  refine ⟨by rfl, ⟨by decide, ?_⟩, by decide, rfl⟩
  intro fine
  cases fine

end Pool

end DataGateway.Relational
