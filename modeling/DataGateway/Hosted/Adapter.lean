import DataGateway.Gateway.Host
import DataGateway.Gateway.Operation
import DataGateway.Hosted.Client

/-!
# The hosted adapter

Answers every operation by a chain of calls to the client of a hosted database.

* `classify` tells denied access from other failures of the client;
* `Adapter.perform` answers an operation.
-/

namespace DataGateway.Hosted

/-! ## Faults -/

/-- The codes of an expired or invalid token and of a missing permission. -/
def deniedCodes : List String := ["PGRST301", "PGRST302", "42501"]

/-- Does a code or a status deny access? A code that cannot be looked up is a misuse. -/
def deniesAccess (code status : Value) : Except Fault Bool := do
  let _ ← Key.ofValue code
  let byCode :=
    match code with
    | .text code => deniedCodes.contains code
    | _ => false
  return byCode || status.looseEq (.int 401)

/-- The class of a fault. -/
def classify : Fault → Except Fault Fault
  | .incident incident => do
    if ← deniesAccess (incident.code?.getD .null) (incident.status?.getD .null) then
      return .denied (.reported incident.wording) true
    else return .backend (.reported incident.wording)
  | fault => .ok fault.classified

def profile : Profile Client where
  name := "supabase"
  classify := classify

abbrev Work (α : Type) := Action (Host Client) α

/-! ## Calls -/

def chain (call : Call) : Work Unit := Host.onBackend (Client.chain call)

def send (call : Call) : Work Reply := Host.onBackend (Client.send call)

def filter (spec : Spec) : Work Unit := Host.onBackend (Client.filter spec)

/-- Sends the request and reads the rows; data that counts as false is an empty list. -/
def sendForRows : Work Value := do
  let data ← Action.ofExcept ((← send .execute).read "data")
  return data.orElse (.list [])

/-- Asks for one row at most. -/
def sendForSingle : Work Reply := do
  chain .maybeSingle
  send .execute

/-- Starts the request for the rows that a specification accepts. -/
def selecting (table columns : Value) (spec : Spec) : Work Unit := do
  chain (.table table)
  let selection ← Action.ofExcept (Selection.ofValue columns)
  chain (.select selection.clause)
  filter spec

/-! ## Queries -/

def select (table columns : Value) (filters : Filters) : Work Value := do
  let spec ← Action.ofExcept filters.parse
  selecting table columns spec
  sendForRows

def selectOne (table columns : Value) (filters : Filters) : Work Value := do
  let spec ← Action.ofExcept filters.parse
  selecting table columns spec
  chain (.limit (.number 1))
  match ← sendForSingle with
  | .nothing => return .null
  | reply => return (← Action.ofExcept (reply.read "data")).orElse .null

/-- The rows that a range has when there is no limit. -/
def defaultSize : Int := 1000

/-- The calls for a page: a range behind an offset, otherwise a limit. -/
def paging (limit offset : Option Query.Bound) : Work Unit := do
  match offset, limit with
  | some offset, _ =>
    if offset.toInt != 0 then
      let size := (limit.map Query.Bound.toInt).getD defaultSize
      chain (.range offset (offset.toInt + size - 1))
    else
      match limit with
      | some size => chain (.limit size)
      | none => return ()
  | none, some size => chain (.limit size)
  | none, none => return ()

def query (table : Value) (options : Query.Options) : Work Value := do
  let checked ← Action.ofExcept options.check
  selecting table options.select checked.spec
  match options.ordering with
  | some ordering => chain (.order ordering.column (!ordering.ascending.truthy))
  | none => pure ()
  let single := options.single.truthy
  paging (if single then some (.number 1) else checked.limit) checked.offset
  if single then
    match ← sendForSingle with
    | .nothing => return .null
    | reply => Action.ofExcept (reply.read "data")
  else sendForRows

def count (table : Value) (filters : Filters) : Work Value := do
  let spec ← Action.ofExcept filters.parse
  chain (.table table)
  chain .selectCount
  filter spec
  let number ← Action.ofExcept ((← send .execute).read "count")
  return number.orElse (.int 0)

/-! ## Mutations -/

def insert (table data : Value) : Work Value := do
  let rows ← Action.ofExcept (rowsOf data)
  chain (.table table)
  chain (.insert rows)
  Action.ofExcept (writtenFor data (← sendForRows))

def insertMany (table rows : Value) : Work Value := do
  if rows.isObject then Action.fail (.refused .batchExpected)
  chain (.table table)
  chain (.insert (← Action.ofExcept (rowsOf rows)))
  sendForRows

def update (table : Value) (filters : Filters) (patch : Value) : Work Value := do
  let spec ← Action.ofExcept filters.parse
  chain (.table table)
  chain (.update patch)
  filter spec
  sendForRows

def delete (table : Value) (filters : Filters) : Work Value := do
  let spec ← Action.ofExcept filters.parse
  chain (.table table)
  chain .delete
  filter spec
  sendForRows

/-- Adds or overwrites one record or several. -/
def upsert (table data : Value) : Work Value := do
  chain (.table table)
  chain (.upsert (← Action.ofExcept (rowsOf data)))
  Action.ofExcept (writtenFor data (← sendForRows))

def rpc (name params : Value) : Work Value := do
  chain (.rpc name (params.orElse (.object [])))
  Action.ofExcept ((← send .execute).read "data")

/-! ## Accounts -/

/-- The fault of an account service: a rejection leaves the session alone. -/
def accountFault : Fault → Fault
  | .incident incident =>
    if incident.kind == .authRetryable then .network (.reported incident.wording)
    else if incident.kind.isRejection then .denied (.reported incident.wording) false
    else .incident incident
  | fault => fault

/-- A call to the account service with credentials. -/
def sendCredentials (call : Call) : Work Reply := do
  match ← (send call).attempt with
  | .ok reply => return reply
  | .error fault => Action.fail (accountFault fault)

/-- Starts a session if there are both a user and a session in a reply; says whether it did. -/
def enter (reply : Reply) : Work Bool := do
  let session := reply.find "session"
  if reply.user.isNull || session.isNull then return false
  profile.startSession (← Action.ofExcept (Reply.tokenOf session)) reply.user
  return true

def signIn (email password : Value) : Work Value := do
  let credentials := Value.object [("email", email), ("password", password)]
  let reply ← sendCredentials (.signIn credentials)
  if ← enter reply then return reply.user
  else Action.fail (.denied .wrongLogin false)

/-- An adapter: where an address is confirmed. -/
structure Adapter where
  confirmAt : Value := .null

namespace Adapter

variable (adapter : Adapter)

/-- Creates an account; a session starts if the reply has one. -/
def signUp (email password : Value) : Work Value := do
  let credentials := [("email", email), ("password", password)]
  let options :=
    if adapter.confirmAt.truthy then
      [("options", Value.object [("email_redirect_to", adapter.confirmAt)])]
    else []
  let reply ← sendCredentials (.signUp (.object (credentials ++ options)))
  let _ ← enter reply
  return reply.user

/-- Ends the session, whatever the service answers. -/
def signOut : Work Value := do
  let _ ← Action.ensuring (send .signOut) profile.endSession
  return .null

/-- Asks for the user of the session, who becomes its principal. -/
def currentUser : Work Value := do
  let session ← Host.requireSession
  let user := (← send .getUser).user
  if user.isNull then Action.fail (.denied .sessionInvalid true)
  Host.setPrincipal session user
  return user

/-! ## Operations -/

def body : Operation → Work Value
  | .select table columns filters => select table columns filters
  | .selectOne table columns filters => selectOne table columns filters
  | .query table options => query table options
  | .count table filters => count table filters
  | .insert table data => insert table data
  | .insertMany table rows => insertMany table rows
  | .update table filters patch => update table filters patch
  | .delete table filters => delete table filters
  | .upsert table data => upsert table data
  | .rpc name params => rpc name params
  | .signIn email password => signIn email password
  | .signUp email password => adapter.signUp email password
  | .signOut => signOut
  | .currentUser => currentUser
  | .isAuthenticated => Value.bool <$> Host.hasSession

def perform (operation : Operation) : Work Response :=
  profile.resolve operation.name (adapter.body operation)

end Adapter

end DataGateway.Hosted
