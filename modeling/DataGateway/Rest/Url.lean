import DataGateway.Filter.Spec
import DataGateway.Query.Options
import DataGateway.Text.Percent

/-!
# Addresses of requests

The path of a table or a function, and the query that says filters, selection, order and page. A
query can only say equality.

* `pairsOf` says a filter specification in pairs;
* `Base.url` puts a path and a query behind the base address.
-/

namespace DataGateway.Rest

/-- Names with values, in the order in which they stand in a query. -/
abbrev Pairs := List (String × String)

/-! ## Queries -/

/-- The text of an operand. -/
def operandText : Value → Except Fault String
  | .bool b => .ok (if b then "true" else "false")
  | v => v.printed

def pairsOf : Spec → Except Fault Pairs
  | [] => .ok []
  | (column, condition) :: rest =>
    match condition with
    | .eq operand => do
      let text ← operandText operand
      return (column, text) :: (← pairsOf rest)
    | _ => .error (.refused (.notEquality condition.operator column))

def selectionPairs (columns : Value) : Except Fault Pairs := do
  match ← Selection.ofValue columns with
  | .all => return []
  | .columns names => return [("select", ",".intercalate names)]

def orderPairs : Option Query.Ordering → Except Fault Pairs
  | none => .ok []
  | some ordering => do
    let direction := if ordering.ascending.truthy then "asc" else "desc"
    return [("order", (← ordering.column.printed) ++ "." ++ direction)]

/-- The pair of a bound, if there is one. -/
def boundPairs (name : String) : Option Query.Bound → Except Fault Pairs
  | none => .ok []
  | some bound => do return [(name, ← bound.toValue.printed)]

/-- The pairs of a page; a wish for one row sets the limit unless there is one. -/
def pagePairs (single : Bool) (limit offset : Option Query.Bound) : Except Fault Pairs := do
  let limit := if single && limit.isNone then some (.number 1) else limit
  let limitPairs ← boundPairs "limit" limit
  return limitPairs ++ (← boundPairs "offset" (offset.filter (·.toInt != 0)))

/-! ## Paths -/

/-- A name as one segment of a path; an empty one is refused. -/
def segmentOf (missing : Refusal) (name : Value) : Except Fault String :=
  if !name.truthy then .error (.refused missing)
  else
    match name with
    | .text s => .ok (String.ofList (Text.Percent.segment (Text.Utf8.encode s.toList)))
    | .octets bytes => .ok (String.ofList (Text.Percent.segment bytes))
    | _ => .error (.misuse .octetsForUrl)

def tablePath (table : Value) : Except Fault String := do
  return "/" ++ (← segmentOf .tableMissing table)

def functionPath (name : Value) : Except Fault String := do
  return "/rpc/" ++ (← segmentOf .functionMissing name)

/-! ## Addresses -/

/-- The address that all paths are behind. -/
structure Base where
  address : String
  deriving DecidableEq

namespace Base

/-- Reads a base address; slashes at its end do not count. -/
def ofValue : Value → Except Fault Base
  | .text s =>
    if s == "" then .error (.setting .emptyBaseUrl)
    else .ok ⟨String.ofList (s.toList.reverse.dropWhile (· == '/')).reverse⟩
  | .octets bytes =>
    .error (if bytes.isEmpty then .setting .emptyBaseUrl else .misuse (.octetsExpected "str"))
  | v =>
    .error (if v.truthy then .misuse (.noMember v.kindName "rstrip") else .setting .emptyBaseUrl)

/-- The address of a path with a query. -/
def url (base : Base) (path : String) (pairs : Pairs) : String :=
  base.address ++ path ++
    (if pairs.isEmpty then "" else "?" ++ String.ofList (Text.Percent.form pairs))

/-- The octets of a name or value of a query: octets are their own, other values have those of their
text. -/
def octetsOf : Value → Except Fault (List UInt8)
  | .octets bytes => .ok bytes
  | v => do return Text.Percent.octetsOf (← v.printed)

/-- The address of a path with a query of values. -/
def urlOfValues (base : Base) (path : String) (pairs : List (Value × Value)) : Except Fault String := do
  let octets ← pairs.mapM fun (name, v) => do return (← octetsOf name, ← octetsOf v)
  return base.address ++ path ++
    (if pairs.isEmpty then "" else "?" ++ String.ofList (Text.Percent.formOf octets))

end Base

end DataGateway.Rest
