import DataGateway.Json.Octets
import DataGateway.Offline.Row

/-!
# The offline adapter

Answers every operation from tables in memory. Mutations write the snapshot after they are done;
what fails half-way has changed the tables but not the snapshot.

* `Offline.perform` answers an operation;
* `Offline.clear`, `exportText` and `importText` work on the database as a whole.
-/

namespace DataGateway.Offline

/-- A step of the adapter. -/
abbrev Work (α : Type) := Action (Host Backend) α

/-- The offline adapter; ending a session removes it from the store too. -/
def profile : Profile Backend where
  name := "mock"
  forget := Backend.drop sessionKey

/-! ## Delays -/

/-- How an operation counts for the simulated delay. -/
def effort : Operation → Effort
  | .select .. | .selectOne .. | .query .. | .count .. | .currentUser | .isAuthenticated => .read
  | .insert .. | .insertMany .. | .update .. | .delete .. | .upsert .. | .rpc .. => .write
  | .signIn .. | .signUp .. | .signOut => .auth

/-- The delay of an operation in seconds; null stands for the default. -/
def delay (latency : Value) (operation : Operation) : Value :=
  if latency.isNull then (effort operation).seconds else latency

/-! ## Parts -/

/-- The rows of a table; a table that does not exist has none. -/
def rowsOfTable (table : Value) : Work Table := do
  let name ← Action.ofExcept (Key.ofValue table)
  return (Fields.get? (← get).backend.tables name).getD []

/-- The rows of a table that has to exist. -/
def requireTable (table : Value) : Work Table := do
  let name ← Action.ofExcept (Key.ofValue table)
  match Fields.get? (← get).backend.tables name with
  | some rows => return rows
  | none => do
    let text ← Action.ofExcept table.printed
    Action.fail (.absent (.table text))

/-- The rows of a table, which is created if it does not exist. -/
def ensureTable (table : Value) : Work Table := do
  let name ← Action.ofExcept (Key.ofValue table)
  match Fields.get? (← get).backend.tables name with
  | some rows => return rows
  | none =>
    Host.onBackend (Backend.setTable name [])
    return []

def putTable (table : Value) (rows : Table) : Work Unit := do
  let name ← Action.ofExcept (Key.ofValue table)
  Host.onBackend (Backend.setTable name rows)

def save : Work Unit := Host.onBackend Backend.save

/-- The id of a row, generated when it has none. -/
def idFor (moment : Moment) (row : Record) : Work Value :=
  let given := (Fields.get? row "id").getD .null
  if given.isNull then Value.int <$> Host.onBackend (Backend.generateId moment) else return given

/-- A row with an id, and with times of creation and change. -/
def stamped (moment : Moment) (id : Value) (row : Record) : Record :=
  let stamp (name : String) : Value :=
    ((Fields.get? row name).getD .null).orElse (.text moment.stamp)
  let record := Fields.set row "id" id
  let record := Fields.set record "created_at" (stamp "created_at")
  Fields.set record "updated_at" (stamp "updated_at")

/-- A row as a new record. -/
def newRecord (moment : Moment) (row : Record) : Work Value := do
  let id ← idFor moment row
  return .object (stamped moment id row)

/-- Rows as new records, each at a moment of its own. -/
def newRecords (moment : Moment) : List Record → Work Table
  | [] => return []
  | row :: rest => do
    let record ← newRecord moment row
    return record :: (← newRecords moment.next rest)

/-! ## The kept session -/

/-- A session as the store keeps it. -/
def keptSession (session : Session) : Value :=
  .object [("token", session.token), ("user", session.principal)]

def keepSession : Work Unit := do
  match (← get).session with
  | none => return ()
  | some session => Host.onBackend (Backend.keep sessionKey (keptSession session))

/-- The session that a value from the store says; the principal has to be an object. -/
def sessionOf? : Value → Option Session
  | .object fields =>
    match Fields.get? fields "user" with
    | some (.object user) =>
      some ⟨((Fields.get? fields "token").getD .null).orElse (.text ""), .object user⟩
    | _ => none
  | _ => none

def restoreSession : Work Unit := do
  let host ← get
  if host.session.isSome then return ()
  let stored ← Action.ofExcept (host.backend.store.read sessionKey)
  match sessionOf? stored with
  | some session => profile.startSession session.token session.principal
  | none => return ()

/-- The principal as a record of its own. -/
def principalRecord (session : Session) : Except Fault Value := Value.object <$> session.principal.asRecord

/-! ## Queries -/

/-- The rows of a table that filters accept. -/
def selected (table : Value) (spec : Spec) : Work Table := do
  let rows ← rowsOfTable table
  Action.ofExcept (filterRows spec rows)

def select (table columns : Value) (filters : Filters) : Work Value := do
  let spec ← Action.ofExcept filters.parse
  let rows ← selected table spec
  Value.list <$> Action.ofExcept (projectAll columns rows)

/-- The first accepted row, or null. -/
def selectOne (table columns : Value) (filters : Filters) : Work Value := do
  let spec ← Action.ofExcept filters.parse
  match ← selected table spec with
  | [] => return .null
  | row :: _ => Action.ofExcept (project columns row)

/-- A page of the accepted rows in order. -/
def query (table : Value) (options : Query.Options) : Work Value := do
  let checked ← Action.ofExcept options.check
  let rows ← selected table checked.spec
  let rows ← match options.ordering with
    | none => pure rows
    | some ordering => Action.ofExcept (orderRows ordering rows)
  let rows := page checked.limit checked.offset rows
  let rows ← Action.ofExcept (projectAll options.select rows)
  if options.single.truthy then return rows.headD .null else return .list rows

def count (table : Value) (filters : Filters) : Work Value := do
  let spec ← Action.ofExcept filters.parse
  let rows ← selected table spec
  return .int rows.length

/-! ## Mutations -/

def insertRows (moment : Moment) (table : Value) (rows : List Record) : Work Table := do
  let _ ← ensureTable table
  -- the table is there from here on, even when it gets no rows
  let inserted ← newRecords moment rows
  putTable table ((← rowsOfTable table) ++ inserted)
  save
  return inserted

def insert (moment : Moment) (table data : Value) : Work Value := do
  let rows ← Action.ofExcept (rowsOf data)
  let inserted ← insertRows moment table rows
  if data.isObject then return inserted.headD .null else return .list inserted

def insertMany (moment : Moment) (table rows : Value) : Work Value := do
  let rows ← Action.ofExcept (batchOf rows)
  Value.list <$> insertRows moment table rows

/-- Changes the rows of a table that a test picks. What was changed before a failure stays changed. -/
def rewriteRows (moment : Moment) (table : Value) (test : Value → Except Fault Bool) (patch : Value)
    (rows : Table) : Work Table := do
  let (rows, changed) := changeRows test (fun row => change moment row patch) rows
  -- what was changed before a failure is kept
  putTable table rows
  Action.ofExcept changed

def update (moment : Moment) (table : Value) (filters : Filters) (patch : Value) : Work Value := do
  let spec ← Action.ofExcept filters.parse
  let rows ← requireTable table
  let changed ← rewriteRows moment table spec.accepts patch rows
  save
  return .list changed

def delete (table : Value) (filters : Filters) : Work Value := do
  let spec ← Action.ofExcept filters.parse
  let rows ← requireTable table
  -- all rows are tested before one is removed
  let (kept, removed) ← Action.ofExcept (partitionRows spec rows)
  putTable table kept
  save
  return .list removed

/-- Adds a record, or merges it into the first row with the same id. -/
def upsertRow (moment : Moment) (table : Value) (record : Record) : Work Value := do
  let rows ← rowsOfTable table
  match ← Action.ofExcept (indexOfId? record 0 rows) with
  | none =>
    let new ← newRecord moment record
    putTable table (rows ++ [new])
    return new
  | some index =>
    let merged ← Action.ofExcept (change moment (rows.getD index .null) (.object record))
    putTable table (rows.set index merged)
    return merged

/-- Adds or merges records, each at a moment of its own. -/
def upsertRows (moment : Moment) (table : Value) : List Record → Work Table
  | [] => return []
  | record :: rest => do
    let written ← upsertRow moment table record
    return written :: (← upsertRows moment.next table rest)

def upsert (moment : Moment) (table data : Value) : Work Value := do
  let _ ← ensureTable table
  -- the table is created before the payload is looked at
  let records ← Action.ofExcept (rowsOf data)
  let written ← upsertRows moment table records
  save
  if data.isObject then return written.headD .null else return .list written

/-! ## Functions -/

def usersTable : Value := .text "users"

def accountsTable : Value := .text "auth_users"

/-- Has a row the id of a principal? -/
def isOwn (principal row : Value) : Except Fault Bool := do
  let id ← row.field "id"
  return id.looseEq (← principal.field "id")

/-- Gives the rows of a principal in the table of users new fields. -/
def changeUsers (moment : Moment) (principal patch : Value) : Work Unit := do
  if Fields.has (← get).backend.tables (.ofText "users") then
    let rows ← rowsOfTable usersTable
    let _ ← rewriteRows moment usersTable (isOwn principal) patch rows

/-- Gives the principal new fields, and its row in the table of users too. -/
def updateProfile (moment : Moment) (params : Value) : Work Value := do
  let session ← Host.requireSession
  let patch := params.orElse (.object [])
  let fields ← Action.ofExcept session.principal.spread
  let update ← Action.ofExcept patch.spread
  let principal := Value.object (Fields.merge fields update)
  -- the session has the new principal even when its row cannot be changed
  Host.setPrincipal session principal
  changeUsers moment principal patch
  save
  keepSession
  return principal

/-- Calls a function; unknown ones answer nothing. -/
def rpc (moment : Moment) (name params : Value) : Work Value := do
  restoreSession
  if name.looseEq (.text "get_user_profile") then
    match (← get).session with
    | some session => Action.ofExcept (principalRecord session)
    | none => return .null
  else if name.looseEq (.text "update_user_profile") then updateProfile moment params
  else
    -- a warning repeats the name of an unknown function
    Action.ofExcept name.requirePrintable
    return .null

/-! ## Accounts -/

/-- The part of an address before the first at sign. -/
def localPart (email : Value) : Except Fault Value :=
  match email with
  | .text s => .ok (.text (String.ofList (s.toList.takeWhile (· != '@'))))
  | .octets _ => .error (.misuse (.octetsExpected "str"))
  | v => .error (.misuse (.noMember v.kindName "split"))

def hasEmail (email row : Value) : Except Fault Bool := do return (← row.field "email").looseEq email

def hasLogin (email password row : Value) : Except Fault Bool := do
  if ← hasEmail email row then return (← row.field "password").looseEq password
  else return false

/-- The token of the member with an id. -/
def tokenFor (id : Value) : Except Fault Value := do return .text ("mock-token-" ++ (← id.printed))

/-- Starts a session for an account with the right password. -/
def signIn (email password : Value) : Work Value := do
  let some account ←
      Action.ofExcept (findRow? (hasLogin email password) (← rowsOfTable accountsTable))
    | Action.fail (.denied .wrongLogin false)
  let user ← Action.ofExcept (findRow? (hasEmail email) (← rowsOfTable usersTable))
  -- an account may have no user, and is a principal of its own then
  let user := user.getD .null
  let principal ← Action.ofExcept (
    if user.truthy then user.asRecord
    else do
      let id ← account.under "id"
      return [("id", id), ("email", ← account.under "email")])
  let id ← Action.ofExcept ((Value.object principal).under "id")
  profile.startSession (← Action.ofExcept (tokenFor id)) (.object principal)
  keepSession
  return .object principal

def requireCredentials (email password : Value) : Except Fault Unit :=
  if email.truthy && password.truthy then .ok () else .error (.refused .credentialsMissing)

def requireNewEmail (email : Value) (accounts : Table) : Except Fault Unit := do
  match ← findRow? (hasEmail email) accounts with
  | none => return ()
  | some _ => throw (.refused .accountExists)

def newUser (moment : Moment) (id email name : Value) : Value :=
  .object [("id", id), ("email", email), ("name", name), ("created_at", .text moment.stamp),
    ("updated_at", .text moment.stamp)]

def newAccount (id email password : Value) : Value :=
  .object [("id", id), ("email", email), ("password", password)]

/-- Creates an account with a user, and starts a session for it. -/
def signUp (moment : Moment) (email password : Value) : Work Value := do
  Action.ofExcept (requireCredentials email password)
  let accounts ← ensureTable accountsTable
  -- the table is there by now, whether or not the address is taken
  Action.ofExcept (requireNewEmail email accounts)
  let id ← Value.int <$> Host.onBackend (Backend.generateId moment)
  let name ← Action.ofExcept (localPart email)
  putTable accountsTable (accounts ++ [newAccount id email password])
  -- nothing but the store can fail from here on
  let users ← ensureTable usersTable
  let user := newUser moment id email name
  putTable usersTable (users ++ [user])
  save
  profile.startSession (← Action.ofExcept (tokenFor id)) user
  keepSession
  return user

def signOut : Work Value := do
  profile.endSession
  return .null

def currentUser : Work Value := do
  restoreSession
  let session ← Host.requireSession
  Action.ofExcept (principalRecord session)

def isAuthenticated : Work Value := do
  restoreSession
  return .bool (← Host.hasSession)

/-! ## Operations -/

def body (moment : Moment) : Operation → Work Value
  | .select table columns filters => select table columns filters
  | .selectOne table columns filters => selectOne table columns filters
  | .query table options => query table options
  | .count table filters => count table filters
  | .insert table data => insert moment table data
  | .insertMany table rows => insertMany moment table rows
  | .update table filters patch => update moment table filters patch
  | .delete table filters => delete table filters
  | .upsert table data => upsert moment table data
  | .rpc name params => rpc moment name params
  | .signIn email password => signIn email password
  | .signUp email password => signUp moment email password
  | .signOut => signOut
  | .currentUser => currentUser
  | .isAuthenticated => isAuthenticated

def perform (moment : Moment) (operation : Operation) : Work Response :=
  profile.resolve operation.name (body moment operation)

/-! ## The database as a whole -/

/-- Drops all tables and adds the default ones. -/
def clear (moment : Moment) : Work Unit := Host.onBackend do
  Backend.setTables []
  -- the snapshot goes first, so it is missing when seeding fails
  Backend.drop snapshotKey
  Backend.seed moment

/-- All tables as a document. -/
def exportText (backend : Backend) : Except Fault String := do
  return String.ofList (Json.encode Json.indented (← Tables.snapshot backend.tables))

/-- The characters of a document, which may come as octets. -/
def documentChars : Value → Except Fault (List Char)
  | .text s => .ok s.toList
  | .octets bytes =>
    match Json.charsOf bytes with
    | .ok chars => .ok chars
    | .error fault => .error (.misuse (.undecodable fault))
  | v => .error (.misuse (.documentKind v.kindName))

/-- The tables that a document says: an object with lists alone. -/
def tablesOf? : Value → Option Tables
  | .object fields => fields.mapM fun (name, v) =>
    match v with
    | .list rows => some (.ofText name, rows)
    | _ => none
  | _ => none

/-- Replaces all tables by those of a document. -/
def importText (document : Value) : Work Unit := do
  let chars ← Action.ofExcept (documentChars document)
  match Json.decode chars with
  | .error problem =>
    -- these two stop the reader, whatever else is wrong with the document
    match problem.cause with
    | .digits digits => Action.fail (.misuse (.wholeTooLong digits))
    | .depth kind => Action.fail (.misuse (.documentDepth kind))
    | _ => Action.fail (.refused (.importUnreadable (problem.text chars)))
  | .ok v =>
    match tablesOf? v with
    | none => Action.fail (.refused .importShape)
    | some tables =>
      Host.onBackend (Backend.setTables tables)
      save

end DataGateway.Offline
