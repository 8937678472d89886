import DataGateway.Calendar.Stamp
import DataGateway.Gateway.Host
import DataGateway.Store
import DataGateway.Value.Access

/-!
# The offline backend

Tables of records in memory, with a snapshot of all of them in a store. The session is kept in
the store too, so both survive a restart.

* `Backend` holds the tables, the last generated id and the store;
* `Backend.start?` builds one on a store, reads the snapshot, and adds the default tables;
* `Moment` is what the outside contributes to an operation: readings of the clock and random numbers.
-/

namespace DataGateway.Offline

/-! ## The outside -/

/-- What the outside contributes to an operation: the clock and a random number, and what the two say
later, once for each further row that is written. -/
structure Moment where
  now : Int := 1704067200000000
  random : Int := 0
  later : List (Int × Int) := []

/-- The moment of the next row; the clock stands still when there is nothing more to say. -/
def Moment.next (moment : Moment) : Moment :=
  match moment.later with
  | [] => moment
  | (now, random) :: later => { now, random, later }

def Moment.stamp (moment : Moment) : String := (Calendar.Stamp.utc moment.now).text

/-- The clock of a moment in whole milliseconds, by way of a binary64 number of seconds. -/
def Moment.millis (moment : Moment) : Except Fault Int :=
  let seconds := (Binary64.ofQuotient? moment.now 1000000).getD .nan
  (Value.float (seconds.scale 1000)).asWhole

/-- How an operation counts for the simulated delay. -/
inductive Effort
  | read
  | write
  | auth
  deriving DecidableEq

/-- The default delay in seconds. -/
def Effort.seconds : Effort → Value
  | .read => .float (.ofRatio false 5 100)
  | .write => .float (.ofRatio false 1 10)
  | .auth => .float (.ofRatio false 2 10)

/-! ## Tables -/

abbrev Table := List Value

/-- Tables by name, which may be a value of many kinds. -/
abbrev Tables := Fields Table Key

/-- The tables as one object for a document. -/
def Tables.snapshot (tables : Tables) : Except Fault Value :=
  Value.object <$> Json.objectOf (Fields.mapValues Value.list tables)

/-- The tables of a stored snapshot; what is no list is left out. -/
def Tables.ofSnapshot (snapshot : Record) : Tables :=
  snapshot.filterMap fun (name, v) =>
    match v with
    | .list rows => some (.ofText name, rows)
    | _ => none

/-- The tables that a new database has. -/
def defaultTables (stamp : String) : Tables :=
  let user (id : Int) (email name : String) : Value :=
    .object [("id", .int id), ("email", .text email), ("name", .text name),
      ("created_at", .text stamp), ("updated_at", .text stamp)]
  let account (id : Int) (email : String) : Value :=
    .object [("id", .int id), ("email", .text email), ("password", .text "password123")]
  [(.ofText "users",
    [user 1 "admin@example.com" "Admin User", user 2 "user@example.com" "Regular User"]),
   (.ofText "auth_users", [account 1 "admin@example.com", account 2 "user@example.com"])]

def withDefaults (stamp : String) (tables : Tables) : Tables :=
  (defaultTables stamp).foldl
    (fun acc (name, rows) => if Fields.has acc name then acc else acc ++ [(name, rows)]) tables

/-! ## The backend -/

def snapshotKey : String := "mock_database"

def sessionKey : String := "mock_current_user"

/-- Tables, the last generated id, and the store. -/
structure Backend where
  tables : Tables := []
  lastId : Int := 0
  store : Store

namespace Backend

def keep (key : String) (v : Value) : Action Backend Unit := do
  let backend ← get
  let store ← Action.ofExcept (backend.store.write key v)
  set { backend with store }

def drop (key : String) : Action Backend Unit := do
  let backend ← get
  let (_, store) ← Action.ofExcept (backend.store.remove key)
  set { backend with store }

def save : Action Backend Unit := do
  let backend ← get
  let snapshot ← Action.ofExcept (Tables.snapshot backend.tables)
  keep snapshotKey snapshot

def setTables (tables : Tables) : Action Backend Unit :=
  modify fun backend => { backend with tables }

def setTable (name : Key) (rows : Table) : Action Backend Unit :=
  modify fun backend => { backend with tables := Fields.set backend.tables name rows }

/-- Adds the default tables that are missing, and writes the snapshot if there were any. -/
def seed (moment : Moment) : Action Backend Unit := do
  let backend ← get
  let tables := withDefaults moment.stamp backend.tables
  -- defaults are only ever added, so their number tells whether there were any
  if tables.length != backend.tables.length then
    setTables tables
    save

/-- The tables that a value from the store says; what is no object says none. -/
def tablesOfStored : Value → Tables
  | .object snapshot => Tables.ofSnapshot snapshot
  | _ => []

def start? (moment : Moment) (store : Store) : Except Fault Backend := do
  let stored ← store.read snapshotKey
  let (result, backend) := (seed moment).run { tables := tablesOfStored stored, store }
  result
  return backend

/-- Generates an id from the clock in milliseconds and a random number, above all generated before. -/
def generateId (moment : Moment) : Action Backend Int := do
  let millis ← Action.ofExcept moment.millis
  let backend ← get
  -- the clock may stand still, the ids may not
  let id := max (millis * 1000 + moment.random) (backend.lastId + 1)
  set { backend with lastId := id }
  return id

end Backend

end DataGateway.Offline
