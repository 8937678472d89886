import DataGateway.Sql.Identifier

/-!
# Statements

SQL statements as structures, and their text. Values are never part of a statement: it refers to
them by numbered placeholders.
-/

namespace DataGateway.Sql

/-! ## Clauses -/

/-- How a column is compared with an argument. -/
inductive Comparison
  | equal
  | notEqual
  | greater
  | greaterOrEqual
  | less
  | lessOrEqual
  | anyOf
  | like
  | ilike
  deriving DecidableEq

/-- A condition on one column. -/
inductive Clause
  | isNull (column : Identifier)
  | compared (column : Identifier) (comparison : Comparison) (placeholder : Int)
  deriving DecidableEq

def placeholderText (n : Int) : String := "$" ++ toString n

def Comparison.text (comparison : Comparison) (n : Int) : String :=
  let argument := placeholderText n
  match comparison with
  | .equal => "= " ++ argument
  | .notEqual => "!= " ++ argument
  | .greater => "> " ++ argument
  | .greaterOrEqual => ">= " ++ argument
  | .less => "< " ++ argument
  | .lessOrEqual => "<= " ++ argument
  | .anyOf => "= ANY(" ++ argument ++ ")"
  | .like => "LIKE " ++ argument
  | .ilike => "ILIKE " ++ argument

def Clause.text : Clause → String
  | .isNull column => column.text ++ " IS NULL"
  | .compared column comparison n => column.text ++ " " ++ comparison.text n

/-- Clauses joined to a condition; no clauses make no text. -/
def whereText (clauses : List Clause) : String :=
  if clauses.isEmpty then "" else "WHERE " ++ " AND ".intercalate (clauses.map Clause.text)

/-! ## Statements -/

/-- What happens to a row that is there already: columns to overwrite, or nothing at all. -/
structure Conflict where
  target : Identifier
  overwrite : List Identifier
  deriving DecidableEq

inductive Statement
  | select (columns : Option (List Identifier)) (table : Identifier) (clauses : List Clause)
      (order : Option (Identifier × Bool)) (limit offset : Option Int)
  | insert (table : Identifier) (columns : List Identifier) (groups : List (List Nat))
      (conflict : Option Conflict)
  | update (table : Identifier) (assignments : List (Identifier × Nat)) (clauses : List Clause)
  | delete (table : Identifier) (clauses : List Clause)
  | count (table : Identifier) (clauses : List Clause)
  | call (function : Identifier) (params : List (Identifier × Nat))
  deriving DecidableEq

def commas (parts : List String) : String := ", ".intercalate parts

def nameList (names : List Identifier) : String := commas (names.map Identifier.text)

/-- Two texts with a blank between them, unless the second is empty. -/
def joined (a b : String) : String := if b == "" then a else a ++ " " ++ b

def columnsText : Option (List Identifier) → String
  | none => "*"
  | some names => nameList names

/-- The text of an order, with a blank before it. -/
def orderText : Option (Identifier × Bool) → String
  | none => ""
  | some (column, ascending) =>
    " ORDER BY " ++ column.text ++ (if ascending then " ASC" else " DESC")

/-- The text of a bound, with a blank before it. -/
def boundText (word : String) : Option Int → String
  | none => ""
  | some n => " " ++ word ++ " " ++ toString n

/-- The text of what happens to a row that is there already. -/
def Conflict.text (conflict : Conflict) : String :=
  if conflict.overwrite.isEmpty then "ON CONFLICT DO NOTHING"
  else
    "ON CONFLICT (" ++ conflict.target.text ++ ") DO UPDATE SET " ++
      commas (conflict.overwrite.map fun c => c.text ++ " = EXCLUDED." ++ c.text)

/-- The text of a rule for conflicts, with a blank before it. -/
def conflictText : Option Conflict → String
  | none => ""
  | some conflict => " " ++ conflict.text

def groupText (group : List Nat) : String :=
  "(" ++ commas (group.map fun (n : Nat) => placeholderText n) ++ ")"

def Statement.text : Statement → String
  | .select columns table clauses order limit offset =>
    joined ("SELECT " ++ columnsText columns ++ " FROM " ++ table.text) (whereText clauses) ++
      orderText order ++ boundText "LIMIT" limit ++ boundText "OFFSET" offset
  | .insert table columns groups conflict =>
    "INSERT INTO " ++ table.text ++ " (" ++ nameList columns ++ ") VALUES " ++
      commas (groups.map groupText) ++ conflictText conflict ++ " RETURNING *"
  | .update table assignments clauses =>
    "UPDATE " ++ table.text ++ " SET " ++
      commas (assignments.map fun (column, n) => column.text ++ " = " ++ placeholderText n) ++
      " " ++ whereText clauses ++ " RETURNING *"
  | .delete table clauses => "DELETE FROM " ++ table.text ++ " " ++ whereText clauses ++ " RETURNING *"
  | .count table clauses => joined ("SELECT COUNT(*) FROM " ++ table.text) (whereText clauses)
  | .call function params =>
    "SELECT " ++ function.text ++ "(" ++
      commas (params.map fun (name, n) => name.text ++ " => " ++ placeholderText n) ++
      ") AS result"

end DataGateway.Sql
