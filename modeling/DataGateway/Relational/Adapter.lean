import DataGateway.Gateway.Conversation
import DataGateway.Gateway.Host
import DataGateway.Gateway.Operation
import DataGateway.Sql.Builder

/-!
# The relational adapter

Answers every operation by one SQL statement. How a statement is carried out is open: an adapter has
a function for it, on any kind of backend.

* `Command` is a statement's text with its arguments, as it is handed over;
* `Adapter.perform` answers an operation.
-/

namespace DataGateway.Relational

/-- A statement's text with its arguments. -/
structure Command where
  text : String
  arguments : List Sql.Argument

def Command.ofPrepared (prepared : Sql.Prepared) : Command :=
  ⟨prepared.statement.text, prepared.arguments⟩

/-- How commands are carried out, the table of accounts, and the builder of statements. -/
structure Adapter (β : Type) where
  execute : Command → Action β Value
  accounts : Sql.Identifier
  builder : Sql.Builder

variable {β : Type}

def profile : Profile β where
  name := "postgres"

abbrev Work (β α : Type) := Action (Host β) α

/-- The record of an account without its password. -/
def principalOf (account : Value) : Except Fault Value := do
  let fields ← account.fieldsFor "items"
  return .object (Fields.erase fields "password")

namespace Adapter

/-- An adapter with the given table of accounts and conflict column. -/
def open? (execute : Command → Action β Value) (accounts conflictColumn : Value) :
    Except Fault (Adapter β) := do
  let accounts ← Sql.Identifier.ofValue accounts
  let conflictColumn ← Sql.Identifier.ofValue conflictColumn
  return ⟨execute, accounts, ⟨conflictColumn⟩⟩

variable (adapter : Adapter β)

def carryOut (command : Command) : Work β Value := Host.onBackend (adapter.execute command)

/-- Carries out a statement, if there is one. -/
def run (prepared : Except Fault Sql.Prepared) : Work β Value := do
  let prepared ← Action.ofExcept prepared
  adapter.carryOut (.ofPrepared prepared)

/-- Carries out a statement; no answer counts as no rows. -/
def rows (prepared : Except Fault Sql.Prepared) : Work β Value := do
  return (← adapter.run prepared).orElse (.list [])

/-! ## Queries -/

def select (table columns : Value) (filters : Filters) : Work β Value :=
  adapter.rows do Sql.Builder.select table columns (← filters.parse)

def selectOne (table columns : Value) (filters : Filters) : Work β Value := do
  let rows ← adapter.run do
    Sql.Builder.select table columns (← filters.parse) none (.int 1)
  Action.ofExcept (firstOrNull rows)

/-- The bound of a page that is given as text. -/
def boundValue (bound : Option Query.Bound) : Value := (bound.map Query.Bound.toValue).getD .null

/-- The statement of a query; a wish for one row sets the limit unless there is one. -/
def statementOf (table : Value) (options : Query.Options) : Except Fault Sql.Prepared := do
  let checked ← options.check
  let order := options.ordering.map fun ordering => (ordering.column, ordering.ascending)
  let limit :=
    if options.single.truthy && checked.limit.isNone then .int 1 else boundValue checked.limit
  Sql.Builder.select table options.select checked.spec order limit (boundValue checked.offset)

def query (table : Value) (options : Query.Options) : Work β Value := do
  let rows ← adapter.rows (statementOf table options)
  if options.single.truthy then Action.ofExcept (firstOrNull rows) else return rows

/-- The number in the first column of the first row. -/
def countOf (rows : Value) : Except Fault Value := do
  if !rows.truthy then return .int 0
  let row ← rows.first
  match (← row.fieldsFor "values").values with
  | [] => throw (.misuse .exhausted)
  | v :: _ => return .int (← v.asWhole)

def count (table : Value) (filters : Filters) : Work β Value := do
  let rows ← adapter.run do Sql.Builder.count table (← filters.parse)
  Action.ofExcept (countOf rows)

/-! ## Mutations -/

def insert (table data : Value) : Work β Value := do
  let rows ← adapter.rows do Sql.Builder.insert table (← rowsOf data)
  Action.ofExcept (writtenFor data rows)

def insertMany (table rows : Value) : Work β Value :=
  adapter.rows do Sql.Builder.insert table (← batchOf rows)

def update (table : Value) (filters : Filters) (patch : Value) : Work β Value :=
  adapter.rows do Sql.Builder.update table (← filters.parse) patch

def delete (table : Value) (filters : Filters) : Work β Value :=
  adapter.rows do Sql.Builder.delete table (← filters.parse)

def upsert (table data : Value) : Work β Value := do
  let rows ← adapter.rows do adapter.builder.upsert table (← rowsOf data)
  Action.ofExcept (writtenFor data rows)

/-- Calls a function and takes its result from the first row. -/
def rpc (name params : Value) : Work β Value := do
  let rows ← adapter.run (Sql.Builder.rpc name (params.orElse (.object [])))
  if rows.truthy then Action.ofExcept (rows.first >>= fun row => row.field "result")
  else return .null

/-! ## Accounts -/

/-- Starts a session for the account in the first row, or fails with a denial. -/
def enter (token : String) (denial : Denial) (rows : Value) : Work β Value := do
  if !rows.truthy then Action.fail (.denied denial false)
  let principal ← Action.ofExcept (rows.first >>= principalOf)
  profile.startSession (.text token) principal
  return principal

def signInCommand (email password : Value) : Command :=
  ⟨"SELECT * FROM " ++ adapter.accounts.text ++
      " WHERE email = $1 AND password = crypt($2, password)",
    [.plain email, .plain password]⟩

def signUpCommand (email password : Value) : Command :=
  ⟨"INSERT INTO " ++ adapter.accounts.text ++
      " (email, password) VALUES ($1, crypt($2, gen_salt(\x27bf\x27))) RETURNING *",
    [.plain email, .plain password]⟩

/-- Starts a session for the account with the address and the password. -/
def signIn (token : String) (email password : Value) : Work β Value := do
  enter token .wrongCredentials (← adapter.carryOut (adapter.signInCommand email password))

/-- Adds an account and starts a session for it. -/
def signUp (token : String) (email password : Value) : Work β Value := do
  if !email.truthy || !password.truthy then Action.fail (.refused .credentialsMissing)
  enter token .noUserReturned (← adapter.carryOut (adapter.signUpCommand email password))

def signOut : Work β Value := do
  profile.endSession
  return .null

def currentUser : Work β Value := do
  let session ← Host.requireSession
  Value.object <$> Action.ofExcept session.principal.asRecord

/-! ## Operations -/

def body (token : String) : Operation → Work β Value
  | .select table columns filters => adapter.select table columns filters
  | .selectOne table columns filters => adapter.selectOne table columns filters
  | .query table options => adapter.query table options
  | .count table filters => adapter.count table filters
  | .insert table data => adapter.insert table data
  | .insertMany table rows => adapter.insertMany table rows
  | .update table filters patch => adapter.update table filters patch
  | .delete table filters => adapter.delete table filters
  | .upsert table data => adapter.upsert table data
  | .rpc name params => adapter.rpc name params
  | .signIn email password => adapter.signIn token email password
  | .signUp email password => adapter.signUp token email password
  | .signOut => signOut
  | .currentUser => currentUser
  | .isAuthenticated => Value.bool <$> Host.hasSession

def perform (token : String) (operation : Operation) : Work β Response :=
  profile.resolve operation.name (adapter.body token operation)

end Adapter

/-! ## A database that is talked to -/

/-- A database as the commands that it got and the answers that it will give. -/
abbrev Database := Conversation Command (Except Fault Value)

/-- Hands a command to the database; without an answer there are no rows. -/
def Database.execute (command : Command) : Action Database Value := do
  Action.ofExcept (← Conversation.ask command (.ok (.list [])))

end DataGateway.Relational
