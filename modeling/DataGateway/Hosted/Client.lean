import DataGateway.Filter.Spec
import DataGateway.Gateway.Conversation
import DataGateway.Query.Options

/-!
# The client of a hosted database

The client builds a request by a chain of calls and sends it with the last one. A client is seen as
the calls that it got and the replies that it will give.

* `Call` is one call; `Call.name`, `Call.arguments` and `Call.options` are how it is written down;
* `filterCall` is the call that says one condition;
* `Reply` is what a sent request answers: attributes, or nothing at all.
-/

namespace DataGateway.Hosted

/-! ## Calls -/

/-- How a column is compared with a value. -/
inductive Comparison
  | eq
  | neq
  | gt
  | gte
  | lt
  | lte
  deriving DecidableEq

def Comparison.name : Comparison → String
  | .eq => "eq"
  | .neq => "neq"
  | .gt => "gt"
  | .gte => "gte"
  | .lt => "lt"
  | .lte => "lte"

/-- A call to the client. -/
inductive Call
  | table (name : Value)
  | rpc (function params : Value)
  | select (clause : String)
  | selectCount
  | insert (rows : List Record)
  | upsert (rows : List Record)
  | update (patch : Value)
  | delete
  | compare (column : String) (comparison : Comparison) (operand : Value)
  | oneOf (column : String) (values : List Value)
  | isNull (column : String)
  | like (column pattern : String)
  | ilike (column pattern : String)
  | order (column : Value) (descending : Bool)
  | range (first : Query.Bound) (last : Int)
  | limit (size : Query.Bound)
  | maybeSingle
  | execute
  | signIn (credentials : Value)
  | signUp (credentials : Value)
  | signOut
  | getUser

def rowList (rows : List Record) : Value := .list (rows.map Value.object)

namespace Call

def name : Call → String
  | table _ => "table"
  | rpc .. => "rpc"
  | select _ | selectCount => "select"
  | insert _ => "insert"
  | upsert _ => "upsert"
  | update _ => "update"
  | delete => "delete"
  | compare _ comparison _ => comparison.name
  | oneOf .. => "in_"
  | isNull _ => "is_"
  | like .. => "like"
  | ilike .. => "ilike"
  | order .. => "order"
  | range .. => "range"
  | limit _ => "limit"
  | maybeSingle => "maybe_single"
  | execute => "execute"
  | signIn _ => "auth.sign_in_with_password"
  | signUp _ => "auth.sign_up"
  | signOut => "auth.sign_out"
  | getUser => "auth.get_user"

def arguments : Call → List Value
  | table name => [name]
  | rpc function params => [function, params]
  | select clause => [.text clause]
  | selectCount => [.text "*"]
  | insert rows | upsert rows => [rowList rows]
  | update patch => [patch]
  | compare column _ operand => [.text column, operand]
  | oneOf column values => [.text column, .list values]
  | isNull column => [.text column, .text "null"]
  | like column pattern | ilike column pattern => [.text column, .text pattern]
  | order column _ => [column]
  | range first last => [first.toValue, .int last]
  | limit size => [size.toValue]
  | signIn credentials | signUp credentials => [credentials]
  | delete | maybeSingle | execute | signOut | getUser => []

def options : Call → Record
  | selectCount => [("count", .text "exact"), ("head", .bool true)]
  | order _ descending => [("desc", .bool descending)]
  | _ => []

end Call

/-! ## Filters -/

/-- The call for a condition on a column. -/
def filterCall (column : String) : Condition → Except Fault Call
  | .eq v => .ok (.compare column .eq v)
  | .neq v => .ok (.compare column .neq v)
  | .gt v => .ok (.compare column .gt v)
  | .gte v => .ok (.compare column .gte v)
  | .lt v => .ok (.compare column .lt v)
  | .lte v => .ok (.compare column .lte v)
  | .like pattern => .ok (.like column (Condition.patternFor pattern))
  | .ilike pattern => .ok (.ilike column (Condition.patternFor pattern))
  | .oneOf values => .ok (.oneOf column values)
  | .isNull => .ok (.isNull column)
  | .unspecified => .error (.misuse (.missingKey Condition.unspecifiedName))

/-! ## Replies -/

/-- What a sent request answers: attributes, or nothing. -/
inductive Reply
  | nothing
  | attributes (fields : Record)

namespace Reply

/-- An attribute that every answer has; it is null unless it is given. -/
def read (reply : Reply) (name : String) : Except Fault Value :=
  match reply with
  | nothing => .error (.misuse (.noMember Value.null.kindName name))
  | attributes fields => .ok ((Fields.get? fields name).getD .null)

/-- An attribute that an answer may lack. -/
def find (reply : Reply) (name : String) : Value :=
  match reply with
  | nothing => .null
  | attributes fields => (Fields.get? fields name).getD .null

def user (reply : Reply) : Value := (reply.find "user").exported

def tokenOf (session : Value) : Except Fault Value :=
  match session with
  | .object fields =>
    match Fields.get? fields "access_token" with
    | some token => .ok token
    | none => .error (.misuse (.noMember "types.SimpleNamespace" "access_token"))
  | v => .error (.misuse (.noMember v.kindName "access_token"))

end Reply

/-! ## The client -/

/-- A client as the calls that it got and the replies that it will give. -/
abbrev Client := Conversation Call (Except Fault Reply)

namespace Client

def chain (call : Call) : Action Client Unit := Conversation.record call

/-- A call that sends the request; without a reply there are no rows. -/
def send (call : Call) : Action Client Reply := do
  Action.ofExcept (← Conversation.ask call (.ok (.attributes [("data", .list [])])))

def filter : Spec → Action Client Unit
  | [] => return ()
  | (column, condition) :: rest => do
    chain (← Action.ofExcept (filterCall column condition))
    filter rest

end Client

end DataGateway.Hosted
