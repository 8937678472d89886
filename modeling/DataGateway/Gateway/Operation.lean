import DataGateway.Query.Options

/-!
# Operations

The requests that every adapter answers, and how a payload is read as rows.
-/

namespace DataGateway

/-- A request to an adapter. -/
inductive Operation
  | select (table columns : Value) (filters : Filters)
  | selectOne (table columns : Value) (filters : Filters)
  | query (table : Value) (options : Query.Options)
  | count (table : Value) (filters : Filters)
  | insert (table data : Value)
  | insertMany (table rows : Value)
  | update (table : Value) (filters : Filters) (patch : Value)
  | delete (table : Value) (filters : Filters)
  | upsert (table data : Value)
  | rpc (name params : Value)
  | signIn (email password : Value)
  | signUp (email password : Value)
  | signOut
  | currentUser
  | isAuthenticated

def Operation.name : Operation → String
  | .select .. => "select"
  | .selectOne .. => "select_one"
  | .query .. => "query"
  | .count .. => "count"
  | .insert .. => "insert"
  | .insertMany .. => "insert_many"
  | .update .. => "update"
  | .delete .. => "delete"
  | .upsert .. => "upsert"
  | .rpc .. => "rpc"
  | .signIn .. => "sign_in"
  | .signUp .. => "sign_up"
  | .signOut => "sign_out"
  | .currentUser => "get_current_user"
  | .isAuthenticated => "is_authenticated"

/-! ## Payloads -/

/-- Reads rows that all have to be records. -/
def recordsOf : List Value → Except Fault (List Record)
  | [] => .ok []
  | .object fields :: rest => do return fields :: (← recordsOf rest)
  | v :: _ => .error (.refused (.rowShape v.kindName))

/-- The rows of a payload: one record, or a list of records. -/
def rowsOf (data : Value) : Except Fault (List Record) :=
  match data with
  | .object fields => .ok [fields]
  | .list items => recordsOf items
  | .tuple items => recordsOf items
  | v => .error (.refused (.payloadShape v.kindName))

/-- The rows of a payload that has to be a list. -/
def batchOf (rows : Value) : Except Fault (List Record) :=
  if rows.isObject then .error (.refused .batchExpected) else rowsOf rows

/-- The first item of a list that counts as true, null otherwise. -/
def firstOrNull (rows : Value) : Except Fault Value :=
  if rows.truthy then rows.first else .ok .null

/-- What was written, for a payload: the first record for a single one, otherwise all. -/
def writtenFor (data written : Value) : Except Fault Value :=
  if data.isObject then firstOrNull written else .ok written

end DataGateway
