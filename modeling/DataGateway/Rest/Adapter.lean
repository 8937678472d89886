import DataGateway.Gateway.Conversation
import DataGateway.Gateway.Host
import DataGateway.Gateway.Operation
import DataGateway.Rest.Reason
import DataGateway.Rest.Url
import DataGateway.Store

/-!
# The REST adapter

Answers every operation by one request to a server. The token of the session is kept in a store, so
that it survives a restart, and is removed as soon as the server turns it down.

* `Request` and `Reply` are what is sent and what comes back;
* `Adapter.call` sends a request and reads the reply;
* `Adapter.perform` answers an operation.
-/

namespace DataGateway.Rest

/-! ## The server -/

/-- What is asked of a resource. -/
inductive Method
  | get
  | post
  | put
  | delete
  deriving DecidableEq

def Method.name : Method → String
  | .get => "GET"
  | .post => "POST"
  | .put => "PUT"
  | .delete => "DELETE"

/-- A request as it is sent. -/
structure Request where
  method : Method
  url : String
  body : Value
  headers : Fields String
  timeout : Value

/-- A reply; its reason may be empty. -/
structure Reply where
  status : Int
  reason : String
  content : String

/-- The server, as the requests that it got and the replies that it will give. -/
abbrev Server := Conversation Request (Except Fault Reply)

/-- A server that has nothing else to say answers an empty list. -/
def emptyReply : Reply := ⟨200, "", "[]"⟩

/-- The server, and the store with the token. -/
structure Backend where
  server : Server := {}
  store : Store

def Backend.send (request : Request) : Action Backend Reply := do
  let reply ← Action.onPart Backend.server (fun backend server => { backend with server })
    (Conversation.ask request (.ok emptyReply))
  Action.ofExcept reply

/-! ## The session and its token -/

def tokenKey : String := "auth_token"

/-- The REST profile; ending a session removes its token. -/
def profile : Profile Backend where
  name := "http"
  forget := do
    let backend ← get
    let (_, store) ← Action.ofExcept (backend.store.remove tokenKey)
    set { backend with store }

abbrev Work (α : Type) := Action (Host Backend) α

/-- Takes the token from the store, if there is no session. -/
def restoreSession : Work Unit := do
  let host ← get
  if host.session.isSome then return ()
  match ← Action.ofExcept (host.backend.store.read tokenKey) with
  | .text token => if token != "" then profile.startSession (.text token) (.object [])
  | _ => return ()

/-- Stores a token and starts a session with it. -/
def keepToken (token user : Value) : Work Unit := do
  let host ← get
  let store ← Action.ofExcept (host.backend.store.write tokenKey token)
  set { host with backend := { host.backend with store } }
  profile.startSession token user

/-! ## Calls -/

/-- An adapter: the base address, and how long it waits for a reply. -/
structure Adapter where
  base : Base
  timeout : Value := .float (.ofRatio false 30 1)

/-- The headers of a request in a session. -/
def headersFor (session : Option Session) (extra : Fields String) : Fields String :=
  let headers := Fields.merge [("Content-Type", "application/json")] extra
  match session with
  | some session =>
    if session.token.truthy then
      Fields.set headers "Authorization" ("Bearer " ++ session.token.display)
    else headers
  | none => headers

/-- What a reply says, or how the request has failed. -/
def readReply (url : String) (reply : Reply) : Except Fault Value :=
  -- a server may leave out the reason
  let reason := if reply.reason != "" then reply.reason else reasonOf reply.status
  if reply.status == 401 then .error (.denied (.http reason) true)
  else if reply.status < 200 || 300 ≤ reply.status then
    .error (.network (.status reply.status reason))
  else if reply.content == "" then .ok .null
  else
    match Json.decode reply.content.toList with
    | .ok v => .ok v
    | .error ⟨.depth kind, _⟩ => .error (.misuse (.documentDepth kind))
    | .error _ => .error (.backend (.unreadable url))

/-- The fault of a request that got no reply. -/
def sendFault (url : String) : Fault → Fault
  | .incident incident =>
    if incident.kind.isTransport then .network (.request url incident.text) else .incident incident
  | fault => fault

/-- What is sent, apart from what the adapter adds. -/
structure Call where
  method : Method
  path : String
  pairs : Pairs := []
  body : Value := .null
  headers : Fields String := []

namespace Adapter

/-- An adapter for a base address. -/
def open? (base : Value) (timeout : Option Value) : Except Fault Adapter := do
  let base ← Base.ofValue base
  return match timeout with
    | some timeout => { base, timeout }
    | none => { base }

variable (adapter : Adapter)

def call (call : Call) : Work Value := do
  restoreSession
  -- by now there is a session if there is a token
  let url := adapter.base.url call.path call.pairs
  let headers := headersFor (← get).session call.headers
  let request : Request := ⟨call.method, url, call.body, headers, adapter.timeout⟩
  match ← (Host.onBackend (Backend.send request)).attempt with
  | .ok reply => Action.ofExcept (readReply url reply)
  | .error fault => Action.fail (sendFault url fault)

def callFor (call : Except Fault Call) : Work Value := do
  adapter.call (← Action.ofExcept call)

/-- Sends a request; an answer that counts as false is an empty list. -/
def rows (call : Except Fault Call) : Work Value := do
  return (← adapter.callFor call).orElse (.list [])

/-! ## Queries -/

def select (table columns : Value) (filters : Filters) : Work Value :=
  adapter.rows do
    let filterPairs ← pairsOf (← filters.parse)
    let pairs := filterPairs ++ (← selectionPairs columns)
    return { method := .get, path := ← tablePath table, pairs }

/-- One row out of an answer. -/
def oneOf : Value → Value
  | .list rows => rows.headD .null
  | v => v.orElse .null

def selectOne (table columns : Value) (filters : Filters) : Work Value :=
  oneOf <$> adapter.callFor do
    let filterPairs ← pairsOf (← filters.parse)
    let pairs := filterPairs ++ ("limit", "1") :: (← selectionPairs columns)
    return { method := .get, path := ← tablePath table, pairs }

def query (table : Value) (options : Query.Options) : Work Value := do
  let single := options.single.truthy
  let rows ← adapter.rows do
    let checked ← options.check
    let filterPairs ← pairsOf checked.spec
    let pairs := filterPairs ++ (← selectionPairs options.select) ++
      (← orderPairs options.ordering) ++ (← pagePairs single checked.limit checked.offset)
    return { method := .get, path := ← tablePath table, pairs }
  if single then Action.ofExcept (firstOrNull rows) else return rows

/-- The number that an answer says, by itself or under a name. -/
def countOf (answer : Value) : Except Fault Value := do
  let number :=
    match answer with
    | .object fields => (Fields.get? fields "count").getD .null
    | v => v
  return .int (← (number.orElse (.int 0)).asWhole)

def count (table : Value) (filters : Filters) : Work Value := do
  let answer ← adapter.callFor do
    let pairs ← pairsOf (← filters.parse)
    return { method := .get, path := (← tablePath table) ++ "/count", pairs }
  Action.ofExcept (countOf answer)

/-! ## Mutations -/

def insert (table data : Value) : Work Value :=
  adapter.callFor do return { method := .post, path := ← tablePath table, body := data }

def insertMany (table rows : Value) : Work Value :=
  adapter.rows do
    if rows.isObject then throw (.refused .batchExpected)
    return { method := .post, path := ← tablePath table, body := .list (← rows.elements) }

def update (table : Value) (filters : Filters) (patch : Value) : Work Value :=
  adapter.rows do
    let pairs ← pairsOf (← filters.parse)
    return { method := .put, path := ← tablePath table, pairs, body := patch }

def delete (table : Value) (filters : Filters) : Work Value :=
  adapter.rows do
    let pairs ← pairsOf (← filters.parse)
    return { method := .delete, path := ← tablePath table, pairs }

/-- Adds or merges one record or several. -/
def upsert (table data : Value) : Work Value :=
  adapter.callFor do
    let headers := [("Prefer", "resolution=merge-duplicates")]
    return { method := .post, path := ← tablePath table, body := data, headers }

def rpc (name params : Value) : Work Value :=
  adapter.callFor do
    return { method := .post, path := ← functionPath name, body := params.orElse (.object []) }

/-! ## Accounts -/

/-- What is sent to enter. -/
def credentials (email password : Value) : Value :=
  .object [("email", email), ("password", password)]

/-- The token and the user of an answer that has a token. -/
def grantOf? : Value → Option (Value × Value)
  | .object fields =>
    let token := (Fields.get? fields "token").getD .null
    let user := ((Fields.get? fields "user").getD .null).exported
    if token.truthy then some (token, user.orElse (.object [])) else none
  | _ => none

/-- Signs in; the answer has to have a token. -/
def signIn (email password : Value) : Work Value := do
  let answer ← adapter.call
    { method := .post, path := "/auth/login", body := credentials email password }
  match grantOf? answer with
  | some (token, user) =>
    keepToken token user
    return user
  | none => Action.fail (.denied .noTokenReturned false)

/-- Creates an account; a session starts if the answer has a token. -/
def signUp (email password : Value) : Work Value := do
  let answer ← adapter.call
    { method := .post, path := "/auth/register", body := credentials email password }
  match grantOf? answer with
  | some (token, user) =>
    keepToken token user
    return user
  | none => return answer

/-- Ends the session, whatever the server answers. -/
def signOut : Work Value := do
  let _ ← Action.ensuring (adapter.call { method := .post, path := "/auth/logout" })
    profile.endSession
  return .null

/-- Asks for the user of the session, who becomes its principal. -/
def currentUser : Work Value := do
  restoreSession
  let session ← Host.requireSession
  let user ← adapter.call { method := .get, path := "/auth/me" }
  Host.setPrincipal session (user.orElse (.object []))
  return user

def isAuthenticated : Work Value := do
  restoreSession
  return .bool (← Host.hasSession)

/-! ## Operations -/

def body : Operation → Work Value
  | .select table columns filters => adapter.select table columns filters
  | .selectOne table columns filters => adapter.selectOne table columns filters
  | .query table options => adapter.query table options
  | .count table filters => adapter.count table filters
  | .insert table data => adapter.insert table data
  | .insertMany table rows => adapter.insertMany table rows
  | .update table filters patch => adapter.update table filters patch
  | .delete table filters => adapter.delete table filters
  | .upsert table data => adapter.upsert table data
  | .rpc name params => adapter.rpc name params
  | .signIn email password => adapter.signIn email password
  | .signUp email password => adapter.signUp email password
  | .signOut => adapter.signOut
  | .currentUser => adapter.currentUser
  | .isAuthenticated => isAuthenticated

def perform (operation : Operation) : Work Response :=
  profile.resolve operation.name (adapter.body operation)

end Adapter

end DataGateway.Rest
