import DataGateway.Proofs.Gateway.Action
import DataGateway.Relational.Pool
import Mathlib.Data.List.Forall2

/-!
# Traces of commands

What happens to a pool when it carries out commands: the events of every command in their order, and
what the command comes to.

* `Call` is a command together with what its driver does: which steps fail, and which rows it answers;
* `Logs` — a step adds events to the history and ends in a result, whatever was there before;
* `Works`, `Serves` — the traces that a statement and a whole command can leave;
* `serves_serve` — every command leaves one of these traces, and a sequence of commands leaves them
  one after the other (`history_serveAll`).
-/

namespace DataGateway.Relational

/-! ## Calls -/

/-- A command together with what its driver does about it: which steps fail and how, and the rows
that a cursor answers. -/
structure Call where
  command : Command
  failure : Step → Option Fault := fun _ => none
  rows : Option (List Value) := none

namespace Pool

/-- The pool with the driver of a call. -/
def facing (pool : Pool) (call : Call) : Pool :=
  { pool with failure := call.failure, rows := call.rows }

/-- The pool after more events. -/
def logged (pool : Pool) (events : List Event) : Pool :=
  { pool with history := pool.history ++ events }

/-- Carries out the command of a call with the driver of the call. -/
def serve (pool : Pool) (call : Call) : Except Fault Value × Pool :=
  execute call.command (pool.facing call)

/-- The events of a call, in order. -/
def traceOf (pool : Pool) (call : Call) : List Event :=
  (pool.serve call).2.history.drop pool.history.length

/-- The pool after calls. -/
def serveAll (pool : Pool) (calls : List Call) : Pool :=
  calls.foldl (fun pool call => (pool.serve call).2) pool

/-- The events of calls, one list for each. -/
def traces : Pool → List Call → List (List Event)
  | _, [] => []
  | pool, call :: calls => pool.traceOf call :: traces (pool.serve call).2 calls

theorem logged_nil (pool : Pool) : pool.logged [] = pool := by
  simp [logged]

theorem logged_logged (pool : Pool) (events more : List Event) :
    (pool.logged events).logged more = pool.logged (events ++ more) := by
  simp [logged]

end Pool

/-! ## Events of steps -/

section Logs

variable {α β : Type} {call : Call}

/-- Whatever happened before, the step adds these events and ends in this result. -/
def Logs (call : Call) (step : Action Pool α) (events : List Event) (result : Except Fault α) : Prop :=
  ∀ pool : Pool, step (pool.facing call) = (result, (pool.logged events).facing call)

theorem Logs.ofExcept (result : Except Fault α) : Logs call (Action.ofExcept result) [] result := by
  intro pool
  have ran : Action.ofExcept result (pool.facing call) = (result, pool.facing call) := rfl
  simpa only [Pool.logged_nil] using ran

theorem Logs.given {found result : Except Fault α} (h : found = result) :
    Logs call (Action.ofExcept found) [] result := by
  rw [h]
  exact .ofExcept result

theorem Logs.pure (a : α) : Logs call (Pure.pure a) [] (.ok a) := Logs.ofExcept (.ok a)

theorem Logs.fail (fault : Fault) : Logs call (Action.fail fault : Action Pool α) [] (.error fault) :=
  Logs.ofExcept (.error fault)

theorem Logs.bind {x : Action Pool α} {f : α → Action Pool β} {events more : List Event} {a : α}
    {result : Except Fault β} (first : Logs call x events (.ok a)) (next : Logs call (f a) more result) :
    Logs call (x >>= f) (events ++ more) result := by
  intro pool
  have ran := Action.bind_of_ok (f := f) (first pool)
  -- the second step begins with the history that the first one leaves
  simpa [next (pool.logged events), Pool.logged_logged] using ran

/-- What comes after a failure does not happen. -/
theorem Logs.stop {x : Action Pool α} {f : α → Action Pool β} {events : List Event} {fault : Fault}
    (first : Logs call x events (.error fault)) : Logs call (x >>= f) events (.error fault) := by
  intro pool
  exact Action.bind_of_error (first pool)

theorem Logs.attempt {step : Action Pool α} {events : List Event} {result : Except Fault α}
    (h : Logs call step events result) : Logs call step.attempt events (.ok result) := by
  intro pool
  simp [Action.attempt_apply, h pool]

theorem Logs.get {f : Pool → Action Pool α} {step : Action Pool α} {events : List Event}
    {result : Except Fault α} (same : ∀ pool : Pool, f (pool.facing call) = step)
    (h : Logs call step events result) : Logs call (MonadState.get >>= f) events result := by
  intro pool
  have ran : (MonadState.get >>= f) (pool.facing call) = f (pool.facing call) (pool.facing call) :=
    Action.bind_get f (pool.facing call)
  simpa [same, h pool] using ran

section Ensuring

variable {step : Action Pool α} {last : Action Pool Unit} {events more : List Event}
  {result : Except Fault α}

theorem Logs.ensuring (h : Logs call step events result) (ended : Logs call last more (.ok ())) :
    Logs call (step.ensuring last) (events ++ more) result := by
  have finished : Logs call (do last; Action.ofExcept result) (more ++ []) result :=
    ended.bind (.ofExcept result)
  rw [List.append_nil] at finished
  exact h.attempt.bind finished

/-- A last step that fails hides how the first one ended. -/
theorem Logs.ensuring_fault {fault : Fault} (h : Logs call step events result)
    (failed : Logs call last more (.error fault)) :
    Logs call (step.ensuring last) (events ++ more) (.error fault) :=
  h.attempt.bind failed.stop

end Ensuring

/-- An event happens also when its step fails. -/
theorem Logs.happen (event : Event) :
    Logs call (Pool.happen event) [event]
      (match event.step? >>= call.failure with
      | some fault => .error fault
      | none => .ok ()) := by
  intro pool
  -- only the failure of the event's own step is asked for
  have ran : Pool.happen event (pool.facing call) =
      (match event.step? >>= call.failure with
        | some fault => Action.fail fault
        | none => return () : Action Pool Unit) ((pool.logged [event]).facing call) := rfl
  rw [ran]
  cases event.step? >>= call.failure <;> rfl

theorem Logs.happen_ok {event : Event} (fine : event.step? >>= call.failure = none) :
    Logs call (Pool.happen event) [event] (.ok ()) := by
  have logs : Logs call (Pool.happen event) [event] _ := .happen event
  simpa only [fine] using logs

theorem Logs.happen_fault {event : Event} {fault : Fault}
    (failed : event.step? >>= call.failure = some fault) :
    Logs call (Pool.happen event) [event] (.error fault) := by
  have logs : Logs call (Pool.happen event) [event] _ := .happen event
  simpa only [failed] using logs

end Logs

/-! ## Statements -/

/-- The traces that carrying out a statement with an open cursor can leave. -/
inductive Works (call : Call) (text : String) (arguments : List Sql.Argument) :
    List Event → Except Fault Value → Prop where
  | unexecuted {fault : Fault} :
      call.failure .execute = some fault →
      Works call text arguments [.executed text arguments] (.error fault)
  | uncommitted {fault : Fault} :
      call.failure .execute = none → call.failure .commit = some fault →
      Works call text arguments [.executed text arguments, .committed] (.error fault)
  | silent :
      call.failure .execute = none → call.failure .commit = none → call.rows = none →
      Works call text arguments [.executed text arguments, .committed] (.ok (.list []))
  | unfetched {rows : List Value} {fault : Fault} :
      call.failure .execute = none → call.failure .commit = none → call.rows = some rows →
      call.failure .fetch = some fault →
      Works call text arguments [.executed text arguments, .committed, .fetched] (.error fault)
  | unread {rows : List Value} {fault : Fault} :
      call.failure .execute = none → call.failure .commit = none → call.rows = some rows →
      call.failure .fetch = none → Pool.records rows = .error fault →
      Works call text arguments [.executed text arguments, .committed, .fetched] (.error fault)
  | read {rows records : List Value} :
      call.failure .execute = none → call.failure .commit = none → call.rows = some rows →
      call.failure .fetch = none → Pool.records rows = .ok records →
      Works call text arguments [.executed text arguments, .committed, .fetched]
        (.ok (.list records))

section Statements

variable {call : Call} {text : String} {arguments : List Sql.Argument}

/-- What is left of a statement after its commit. -/
def answering : Option (List Value) → Action Pool Value
  | none => return .list []
  | some rows => do
    Pool.happen .fetched
    Value.list <$> Action.ofExcept (Pool.records rows)

theorem logs_fetch {rows : List Value} {result : Except Fault (List Value)}
    (fine : call.failure .fetch = none) (reads : Pool.records rows = result) :
    Logs call (answering (some rows)) [.fetched] (Value.list <$> result) := by
  have fetched : Logs call (Pool.happen .fetched) [.fetched] (.ok ()) := .happen_ok fine
  have read : Logs call (Value.list <$> Action.ofExcept (Pool.records rows)) []
      (Value.list <$> result) := by
    rw [reads]
    cases result with
    | error fault => exact .ofExcept (.error fault)
    | ok records => exact .ofExcept (.ok (Value.list records))
  exact fetched.bind read

/-- The rows are looked at when the statement has been committed. -/
theorem logs_work {rows : Option (List Value)} {events : List Event} {result : Except Fault Value}
    (executes : call.failure .execute = none) (commits : call.failure .commit = none)
    (answers : call.rows = rows) (answered : Logs call (answering rows) events result) :
    Logs call (Pool.work text arguments) (.executed text arguments :: .committed :: events)
      result := by
  have executed : Logs call (Pool.happen (.executed text arguments)) [.executed text arguments]
      (.ok ()) := .happen_ok executes
  have committed : Logs call (Pool.happen .committed) [.committed] (.ok ()) := .happen_ok commits
  refine executed.bind (committed.bind (.get ?_ answered))
  intro pool
  rw [← answers]
  rfl

theorem works_work (call : Call) (text : String) (arguments : List Sql.Argument) :
    ∃ events result, Works call text arguments events result ∧
      Logs call (Pool.work text arguments) events result := by
  -- the cases follow the order of the steps; each one that fails is the last
  cases executes : call.failure .execute with
  | some fault => exact ⟨_, _, .unexecuted executes, .stop (.happen_fault executes)⟩
  | none =>
      have executed : Logs call (Pool.happen (.executed text arguments)) [.executed text arguments]
          (.ok ()) := .happen_ok executes
      cases commits : call.failure .commit with
      | some fault =>
          exact ⟨_, _, .uncommitted executes commits, executed.bind (.stop (.happen_fault commits))⟩
      | none =>
          cases answers : call.rows with
          | none =>
              exact ⟨_, _, .silent executes commits answers,
                logs_work executes commits answers (.pure (Value.list []))⟩
          | some rows =>
              cases fetches : call.failure .fetch with
              | some fault =>
                  exact ⟨_, _, .unfetched executes commits answers fetches,
                    logs_work executes commits answers (.stop (.happen_fault fetches))⟩
              | none =>
                  cases reads : Pool.records rows with
                  | error fault =>
                      exact ⟨_, _, .unread executes commits answers fetches reads,
                        logs_work executes commits answers (logs_fetch fetches reads)⟩
                  | ok records =>
                      exact ⟨_, _, .read executes commits answers fetches reads,
                        logs_work executes commits answers (logs_fetch fetches reads)⟩

end Statements

/-! ## Commands -/

/-- The fault of a connection that does not come about. -/
def connectionFault : Fault → Fault
  | .incident incident =>
    if incident.kind.isOperational then .network (.database incident.text) else .incident incident
  | fault => fault

namespace Call

variable (call : Call)

/-- What a transaction that failed comes to after the rollback. -/
def undone (fault : Fault) : Except Fault Value :=
  .error ((call.failure .rollback).getD (Pool.transactionFault fault))

/-- What a transaction comes to when the connection has been given back. -/
def handedBack (result : Except Fault Value) : Except Fault Value :=
  match call.failure .giveBack with
  | some fault => .error fault
  | none => result

end Call

/-- The traces that a command can leave. -/
inductive Serves (call : Call) : List Event → Except Fault Value → Prop where
  | refused {fault : Fault} :
      Sql.driverForm call.command.text call.command.arguments = .error fault →
      Serves call [] (.error fault)
  | unconnected {form : String × List Sql.Argument} {fault : Fault} :
      Sql.driverForm call.command.text call.command.arguments = .ok form →
      call.failure .connect = some fault →
      Serves call [.connected] (.error (connectionFault fault))
  | unopened {form : String × List Sql.Argument} {fault : Fault} :
      Sql.driverForm call.command.text call.command.arguments = .ok form →
      call.failure .connect = none → call.failure .cursor = some fault →
      Serves call [.connected, .cursorOpened, .rolledBack, .givenBack]
        (call.handedBack (call.undone fault))
  | undone {text : String} {arguments : List Sql.Argument} {events : List Event} {fault : Fault} :
      Sql.driverForm call.command.text call.command.arguments = .ok (text, arguments) →
      call.failure .connect = none → call.failure .cursor = none →
      Works call text arguments events (.error fault) →
      Serves call ([.connected, .cursorOpened] ++ events ++ [.cursorClosed, .rolledBack, .givenBack])
        (call.handedBack (call.undone fault))
  | finished {text : String} {arguments : List Sql.Argument} {events : List Event} {rows : Value} :
      Sql.driverForm call.command.text call.command.arguments = .ok (text, arguments) →
      call.failure .connect = none → call.failure .cursor = none →
      Works call text arguments events (.ok rows) →
      Serves call ([.connected, .cursorOpened] ++ events ++ [.cursorClosed, .givenBack])
        (call.handedBack (.ok rows))

section Commands

variable {call : Call} {text : String} {arguments : List Sql.Argument}

theorem logs_connect_ok (fine : call.failure .connect = none) :
    Logs call Pool.connect [.connected] (.ok ()) := by
  have connected : Logs call (Pool.happen .connected) [.connected] (.ok ()) := .happen_ok fine
  exact connected.attempt.bind (.pure ())

theorem logs_connect_fault {fault : Fault} (failed : call.failure .connect = some fault) :
    Logs call Pool.connect [.connected] (.error (connectionFault fault)) := by
  have connected : Logs call (Pool.happen .connected) [.connected] (.error fault) :=
    .happen_fault failed
  have ran : Logs call Pool.connect ([.connected] ++ []) (.error (connectionFault fault)) := by
    apply connected.attempt.bind
    -- only an incident can stand for a connection that was lost
    cases fault with
    | incident incident =>
        by_cases lost : incident.kind.isOperational = true
        · simpa [connectionFault, lost] using Logs.fail (.network (.database incident.text))
        · simpa [connectionFault, lost] using Logs.fail (.incident incident)
    | _ => exact .fail _
  exact ran

/-- The rollback comes last, and when it fails its own fault is the one that counts. -/
theorem logs_undo (fault : Fault) :
    Logs call (do
      Pool.happen .rolledBack
      Action.fail (Pool.transactionFault fault)) [.rolledBack] (call.undone fault) := by
  cases undoes : call.failure .rollback with
  | some other =>
      have failed : Logs call (Pool.happen .rolledBack) [.rolledBack] (.error other) :=
        .happen_fault undoes
      simpa [Call.undone, undoes] using failed.stop
  | none =>
      have done : Logs call (Pool.happen .rolledBack) [.rolledBack] (.ok ()) := .happen_ok undoes
      simpa [Call.undone, undoes] using done.bind (.fail (Pool.transactionFault fault))

theorem logs_withCursor {events : List Event} {result : Except Fault Value}
    (fine : call.failure .cursor = none) (worked : Logs call (Pool.work text arguments) events result) :
    Logs call (Pool.withCursor text arguments) (.cursorOpened :: events ++ [.cursorClosed]) result := by
  have opened : Logs call (Pool.happen .cursorOpened) [.cursorOpened] (.ok ()) := .happen_ok fine
  have closed : Logs call (Pool.happen .cursorClosed) [.cursorClosed] (.ok ()) := .happen_ok rfl
  exact opened.bind (worked.ensuring closed)

theorem logs_transact_ok {events : List Event} {rows : Value}
    (worked : Logs call (Pool.withCursor text arguments) events (.ok rows)) :
    Logs call (Pool.transact text arguments) events (.ok rows) := by
  have ran : Logs call (Pool.transact text arguments) (events ++ []) (.ok rows) :=
    worked.attempt.bind (.pure rows)
  simpa only [List.append_nil] using ran

theorem logs_transact_fault {events : List Event} {fault : Fault}
    (failed : Logs call (Pool.withCursor text arguments) events (.error fault)) :
    Logs call (Pool.transact text arguments) (events ++ [.rolledBack]) (call.undone fault) :=
  failed.attempt.bind (logs_undo fault)

/-- A connection that was taken is given back last, whatever came of the transaction. -/
theorem logs_execute {events : List Event} {result : Except Fault Value}
    (formed : Sql.driverForm call.command.text call.command.arguments = .ok (text, arguments))
    (fine : call.failure .connect = none)
    (transacted : Logs call (Pool.transact text arguments) events result) :
    Logs call (Pool.execute call.command) (.connected :: events ++ [.givenBack])
      (call.handedBack result) := by
  have ready : Logs call (Action.ofExcept
      (Sql.driverForm call.command.text call.command.arguments)) [] (.ok (text, arguments)) :=
    .given formed
  have ended : Logs call ((Pool.transact text arguments).ensuring (Pool.happen .givenBack))
      (events ++ [.givenBack]) (call.handedBack result) := by
    cases returns : call.failure .giveBack with
    | some other =>
        have lost : Logs call (Pool.happen .givenBack) [.givenBack] (.error other) :=
          .happen_fault returns
        simpa [Call.handedBack, returns] using transacted.ensuring_fault lost
    | none =>
        have back : Logs call (Pool.happen .givenBack) [.givenBack] (.ok ()) := .happen_ok returns
        simpa [Call.handedBack, returns] using transacted.ensuring back
  exact ready.bind ((logs_connect_ok fine).bind ended)

theorem serves_execute (call : Call) :
    ∃ events result, Serves call events result ∧
      Logs call (Pool.execute call.command) events result := by
  -- again in the order of the steps: the form, the connection, the cursor, the statement
  cases formed : Sql.driverForm call.command.text call.command.arguments with
  | error fault =>
      have refused : Logs call (Action.ofExcept
          (Sql.driverForm call.command.text call.command.arguments)) [] (.error fault) :=
        .given formed
      exact ⟨_, _, .refused formed, refused.stop⟩
  | ok form =>
      rcases form with ⟨text, arguments⟩
      cases connects : call.failure .connect with
      | some fault =>
          have ready : Logs call (Action.ofExcept
              (Sql.driverForm call.command.text call.command.arguments)) []
              (.ok (text, arguments)) := .given formed
          exact ⟨_, _, .unconnected formed connects,
            ready.bind (.stop (logs_connect_fault connects))⟩
      | none =>
          cases opens : call.failure .cursor with
          | some fault =>
              have closed : Logs call (Pool.withCursor text arguments) [.cursorOpened]
                  (.error fault) := .stop (.happen_fault opens)
              exact ⟨_, _, .unopened formed connects opens,
                logs_execute formed connects (logs_transact_fault closed)⟩
          | none =>
              rcases works_work call text arguments with ⟨events, result, works, logs⟩
              have closed := logs_withCursor opens logs
              cases result with
              | error fault =>
                  refine ⟨_, _, .undone formed connects opens works, ?_⟩
                  simpa using logs_execute formed connects (logs_transact_fault closed)
              | ok rows =>
                  refine ⟨_, _, .finished formed connects opens works, ?_⟩
                  simpa using logs_execute formed connects (logs_transact_ok closed)

end Commands

/-! ## Calls and sequences of calls -/

namespace Pool

/-- Every call leaves one of the traces of its command, and nothing else happens to the pool. -/
theorem serves_serve (pool : Pool) (call : Call) :
    Serves call (pool.traceOf call) (pool.serve call).1 ∧
      (pool.serve call).2 = (pool.logged (pool.traceOf call)).facing call := by
  rcases serves_execute call with ⟨events, result, serves, logs⟩
  have ran : pool.serve call = (result, (pool.logged events).facing call) := logs pool
  have trace : pool.traceOf call = events := by
    rw [traceOf, ran]
    exact List.drop_left
  rw [trace, ran]
  exact ⟨serves, rfl⟩

/-- Calls add their events to the history, one call after the other. -/
theorem history_serveAll (pool : Pool) (calls : List Call) :
    (pool.serveAll calls).history = pool.history ++ (pool.traces calls).flatten := by
  -- induction on the calls, each of which begins where the one before it stopped
  induction calls generalizing pool with
  | nil => simp [serveAll, traces]
  | cons call calls ih =>
      have first : (pool.serve call).2.history = pool.history ++ pool.traceOf call := by
        rw [(pool.serves_serve call).2]
        rfl
      calc
        (pool.serveAll (call :: calls)).history
            = (pool.serve call).2.history ++ (traces (pool.serve call).2 calls).flatten :=
              ih (pool.serve call).2
        _ = pool.history ++ (pool.traces (call :: calls)).flatten := by
              simp [first, traces]

/-- What every single call keeps to, the calls of a sequence keep to. -/
theorem forall₂_traces {P : Call → List Event → Prop}
    (each : ∀ (pool : Pool) (call : Call), P call (pool.traceOf call)) (pool : Pool)
    (calls : List Call) : List.Forall₂ P calls (pool.traces calls) := by
  induction calls generalizing pool with
  | nil => exact .nil
  | cons call calls ih => exact .cons (each pool call) (ih (pool.serve call).2)

end Pool

end DataGateway.Relational
