import DataGateway.Relational.Adapter
import DataGateway.Sql.Placeholder

/-!
# Connection pools

Carries out commands on connections of a pool, each in a transaction of its own.

* `Event` is what happens to the pool, a connection or a cursor, in order;
* `Pool` is a pool with its history, which of its steps fail, and what a cursor answers;
* `Pool.execute` carries out a command: whatever fails, the connection goes back to the pool last.
-/

namespace DataGateway.Relational

/-- The steps that may fail. -/
inductive Step
  | connect
  | cursor
  | execute
  | commit
  | fetch
  | rollback
  | giveBack
  | close
  deriving DecidableEq

/-- What happens to a pool, to a connection or to a cursor. -/
inductive Event
  | opened (least most source : Value)
  | connected
  | cursorOpened
  | executed (text : String) (arguments : List Sql.Argument)
  | committed
  | fetched
  | cursorClosed
  | rolledBack
  | givenBack
  | closed

def Event.step? : Event → Option Step
  | .opened .. => none
  | .connected => some .connect
  | .cursorOpened => some .cursor
  | .executed .. => some .execute
  | .committed => some .commit
  | .fetched => some .fetch
  | .cursorClosed => none
  | .rolledBack => some .rollback
  | .givenBack => some .giveBack
  | .closed => some .close

/-- A pool: its history, which steps fail and how, and the rows that a cursor answers; without
rows the statement answers nothing to fetch. -/
structure Pool where
  history : List Event := []
  failure : Step → Option Fault := fun _ => none
  rows : Option (List Value) := none

namespace Pool

/-- Lets an event happen, which counts as happened even if it fails. -/
def happen (event : Event) : Action Pool Unit := do
  modify fun pool => { pool with history := pool.history ++ [event] }
  match event.step? >>= (← get).failure with
  | some fault => Action.fail fault
  | none => return ()

def connect : Action Pool Unit := do
  match ← (happen .connected).attempt with
  | .ok _ => return ()
  | .error (.incident incident) =>
    if incident.kind.isOperational then Action.fail (.network (.database incident.text))
    else Action.fail (.incident incident)
  | .error fault => Action.fail fault

/-- Records for rows. -/
def records : List Value → Except Fault (List Value)
  | [] => .ok []
  | row :: rest => do
    let record ← row.asRecord
    return .object record :: (← records rest)

/-- Carries out a statement with an open cursor and commits it, then reads the rows. -/
def work (text : String) (arguments : List Sql.Argument) : Action Pool Value := do
  happen (.executed text arguments)
  -- the rows are read after the commit, so a failure to read them undoes nothing
  happen .committed
  match (← get).rows with
  | none => return .list []
  | some rows =>
    happen .fetched
    Value.list <$> Action.ofExcept (records rows)

/-- Carries out a statement with a cursor of its own. -/
def withCursor (text : String) (arguments : List Sql.Argument) : Action Pool Value := do
  happen .cursorOpened
  Action.ensuring (work text arguments) (happen .cursorClosed)

/-- The fault of a transaction: denied access ends the session. -/
def transactionFault : Fault → Fault
  | .incident incident =>
    if incident.kind.isDenial then .denied (.reported (Text.trim incident.text)) true
    else .incident incident
  | fault => fault

/-- Carries out a statement and undoes the transaction if it fails. -/
def transact (text : String) (arguments : List Sql.Argument) : Action Pool Value := do
  match ← (withCursor text arguments).attempt with
  | .ok rows => return rows
  | .error fault =>
    -- a rollback that fails hides what it was for
    happen .rolledBack
    Action.fail (transactionFault fault)

def execute (command : Command) : Action Pool Value := do
  let (text, arguments) ← Action.ofExcept (Sql.driverForm command.text command.arguments)
  -- a statement that cannot be handed over takes no connection
  connect
  Action.ensuring (transact text arguments) (happen .givenBack)

def close : Action Pool Unit := happen .closed

/-- Opens a pool, unless its driver fails. -/
def start (least most source : Value) (failure : Option Fault) : Action Pool Unit := do
  happen (.opened least most source)
  match failure with
  | some fault => Action.fail (.setting (.pool fault.message))
  | none => return ()

end Pool

end DataGateway.Relational
