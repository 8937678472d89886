import DataGateway.Gateway.Operation
import DataGateway.Sql.Statement

/-!
# Building statements

One statement with its arguments for every request. The placeholders count the arguments from one
on, in the order of the text.

* `clausesOf` says a filter specification in clauses;
* `Builder` builds the statements; its conflict column decides which row an upsert meets.
-/

namespace DataGateway.Sql

/-! ## Arguments -/

/-- An argument of a statement: a value, or one that travels as a document. -/
inductive Argument
  | plain (v : Value)
  | document (v : Value)

namespace Argument

def ofValue : Value → Argument
  | .object fields => .document (.object fields)
  | .list items => .document (.list items)
  | v => .plain v

def value : Argument → Value
  | plain v => v
  | document v => v

end Argument

structure Prepared where
  statement : Statement
  arguments : List Argument

/-! ## Filters -/

/-- The comparison and the argument of a condition; null checks have none. -/
def comparisonOf? : Condition → Except Fault (Option (Comparison × Argument))
  | .isNull => .ok none
  | .oneOf values => .ok (some (.anyOf, .plain (.list values)))
  | .like pattern => .ok (some (.like, .plain (.text (Condition.patternFor pattern))))
  | .ilike pattern => .ok (some (.ilike, .plain (.text (Condition.patternFor pattern))))
  | .eq v => .ok (some (.equal, .ofValue v))
  | .neq v => .ok (some (.notEqual, .ofValue v))
  | .gt v => .ok (some (.greater, .ofValue v))
  | .gte v => .ok (some (.greaterOrEqual, .ofValue v))
  | .lt v => .ok (some (.less, .ofValue v))
  | .lte v => .ok (some (.lessOrEqual, .ofValue v))
  | .unspecified => .error (.misuse (.missingKey Condition.unspecifiedName))

/-- The clauses of a specification and their arguments, numbered from `start` on. -/
def clausesOf (start : Int) : Spec → Except Fault (List Clause × List Argument)
  | [] => .ok ([], [])
  | (column, condition) :: rest => do
    let column ← Identifier.ofName column
    match ← comparisonOf? condition with
    | none =>
      -- no argument, so the number is free for the next clause
      let (clauses, arguments) ← clausesOf start rest
      return (.isNull column :: clauses, arguments)
    | some (comparison, argument) =>
      let (clauses, arguments) ← clausesOf (start + 1) rest
      return (.compared column comparison start :: clauses, argument :: arguments)

/-! ## Parts of statements -/

def identifiers : List Value → Except Fault (List Identifier)
  | [] => .ok []
  | v :: rest => do
    let name ← Identifier.ofValue v
    return name :: (← identifiers rest)

def selectionOf (columns : Value) : Except Fault (Option (List Identifier)) := do
  match ← Selection.ofValue columns with
  | .all => return none
  | .columns names => return some (← identifiers (names.map .text))

/-- The column of an order and its direction. -/
def orderOf : Option (Value × Value) → Except Fault (Option (Identifier × Bool))
  | none => .ok none
  | some (column, ascending) => do return some (← Identifier.ofValue column, ascending.truthy)

/-- A whole number that has a text. -/
def boundOf (v : Value) : Except Fault Int := do
  let n ← v.asWhole
  (Value.int n).requirePrintable
  return n

/-- The most rows that are wanted; null sets no bound. -/
def limitOf (limit : Value) : Except Fault (Option Int) :=
  if limit.isNull then .ok none else some <$> boundOf limit

/-- The number of rows that are passed over; an empty value passes over none. -/
def offsetOf (offset : Value) : Except Fault (Option Int) :=
  if offset.truthy then some <$> boundOf offset else .ok none

def numbered (start : Nat) (names : List Identifier) : List (Identifier × Nat) :=
  names.zipIdx start

/-- Have two records the same columns? -/
def sameColumns (a b : Record) : Bool :=
  a.length == b.length && a.names.all fun name => Fields.has b name

/-- The columns of rows: those of the first row, which all others share. -/
def rowColumns : List Record → Except Fault (List Identifier)
  | [] => .error (.refused .noRows)
  | first :: rest =>
    if first.isEmpty then .error (.refused .noRows)
    else if rest.all (sameColumns first) then identifiers (first.names.map .text)
    else .error (.refused .unevenRows)

/-- The groups of placeholders for rows of a width. -/
def placeholderGroups (width rows : Nat) : List (List Nat) :=
  (List.range rows).map fun row => List.range' (row * width + 1) width

/-- The arguments of rows, row by row in the order of the columns. -/
def rowArguments (columns : List Identifier) (rows : List Record) : List Argument :=
  rows.flatMap fun row =>
    columns.map fun column => .ofValue ((Fields.get? row column.text).getD .null)

/-! ## Rows of any kind -/

/-- Has a value the given names as its elements, in any order and any number? -/
def hasElements (names : List String) (v : Value) : Except Fault Bool := do
  let keys ← (← v.elements).mapM Key.ofValue
  let wanted := names.map Key.ofText
  return keys.all wanted.contains && wanted.all keys.contains

/-- Refuses rows that do not have the given columns. -/
def requireColumns (names : List String) : List Value → Except Fault Unit
  | [] => .ok ()
  | row :: rest => do
    if ← hasElements names row then requireColumns names rest
    else .error (.refused .unevenRows)

/-- Reads records from rows that were not checked: the first row says the columns, and every other row
is asked for them. -/
def recordsWithin (rows : Value) : Except Fault (List Record) := do
  if !rows.truthy then throw (.refused .noRows)
  let first ← rows.first
  if !first.truthy then throw (.refused .noRows)
  -- only the first row has to be a record
  let columns := (← first.fieldsFor "keys").names
  let rows := rows.items?.getD []
  requireColumns columns (rows.drop 1)
  let _ ← identifiers (columns.map .text)
  rows.mapM fun row => columns.mapM fun column => do return (column, ← row.under column)

/-! ## The builder -/

/-- Builds statements; a row is there already when it has the same value in the conflict column. -/
structure Builder where
  conflictColumn : Identifier

namespace Builder

/-- Reads rows of a table. -/
def select (table columns : Value) (spec : Spec) (order : Option (Value × Value) := none)
    (limit offset : Value := .null) : Except Fault Prepared := do
  let (clauses, arguments) ← clausesOf 1 spec
  let columns ← selectionOf columns
  let table ← Identifier.ofValue table
  return ⟨.select columns table clauses (← orderOf order) (← limitOf limit) (← offsetOf offset),
    arguments⟩

/-- Adds rows to a table, with or without a rule for rows that are there already. -/
def write (conflict : List Identifier → Option Conflict) (table : Value) (rows : List Record) :
    Except Fault Prepared := do
  let columns ← rowColumns rows
  let table ← Identifier.ofValue table
  let groups := placeholderGroups columns.length rows.length
  return ⟨.insert table columns groups (conflict columns), rowArguments columns rows⟩

def insert (table : Value) (rows : List Record) : Except Fault Prepared :=
  write (fun _ => none) table rows

/-- The columns that an upsert overwrites: all but the conflict column and the time of creation. -/
def overwritten (builder : Builder) (columns : List Identifier) : List Identifier :=
  columns.filter fun c => c != builder.conflictColumn && c.text != "created_at"

/-- Adds rows to a table or overwrites those that are there. -/
def upsert (builder : Builder) (table : Value) (rows : List Record) : Except Fault Prepared :=
  write (fun columns => some ⟨builder.conflictColumn, builder.overwritten columns⟩) table rows

/-- Changes rows of a table; both the condition and the patch must say something. -/
def update (table : Value) (spec : Spec) (patch : Value) : Except Fault Prepared := do
  if spec.isEmpty then throw (.refused .updateWithoutFilter)
  if !patch.truthy then throw (.refused .updateWithoutColumn)
  let columns ← identifiers (← patch.elements)
  let fields ← patch.fieldsFor "values"
  let values := fields.values.map Argument.ofValue
  -- the condition counts on from the assignments
  let (clauses, arguments) ← clausesOf (values.length + 1) spec
  let table ← Identifier.ofValue table
  return ⟨.update table (numbered 1 columns) clauses, values ++ arguments⟩

def delete (table : Value) (spec : Spec) : Except Fault Prepared := do
  if spec.isEmpty then throw (.refused .deleteWithoutFilter)
  let (clauses, arguments) ← clausesOf 1 spec
  let table ← Identifier.ofValue table
  return ⟨.delete table clauses, arguments⟩

def count (table : Value) (spec : Spec) : Except Fault Prepared := do
  let (clauses, arguments) ← clausesOf 1 spec
  let table ← Identifier.ofValue table
  return ⟨.count table clauses, arguments⟩

def rpc (name params : Value) : Except Fault Prepared := do
  let names ← identifiers (← params.elements)
  let function ← Identifier.ofValue name
  let fields ← params.fieldsFor "values"
  return ⟨.call function (numbered 1 names), fields.values.map .ofValue⟩

end Builder

end DataGateway.Sql
