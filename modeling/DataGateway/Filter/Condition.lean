import DataGateway.Fault
import DataGateway.Text.Case
import DataGateway.Text.LikePattern
import DataGateway.Value.Access

/-!
# Conditions

What a filter asks of one column. A null or missing column satisfies `isNull` and nothing else.

* `Condition.holds` says whether a value satisfies a condition;
* `Condition.test` is the same, unless the condition cannot be tested, or not on the value;
* `Condition.ofWire` reads the short form in which requests write conditions.
-/

namespace DataGateway

/-- A condition on the value of a column. -/
inductive Condition
  | eq (operand : Value)
  | neq (operand : Value)
  | gt (operand : Value)
  | gte (operand : Value)
  | lt (operand : Value)
  | lte (operand : Value)
  | like (pattern : Value)
  | ilike (pattern : Value)
  | oneOf (values : List Value)
  | isNull
  | unspecified

namespace Condition

/-- The operator's name in requests. -/
def operator : Condition → String
  | eq _ => "eq"
  | neq _ => "neq"
  | gt _ => "gt"
  | gte _ => "gte"
  | lt _ => "lt"
  | lte _ => "lte"
  | like _ => "like"
  | ilike _ => "ilike"
  | oneOf _ => "in"
  | isNull => "is"
  | unspecified => ""

/-- What the condition holds, under the names of its members. -/
def members : Condition → Record
  | eq v | neq v | gt v | gte v | lt v | lte v => [("value", v)]
  | like pattern | ilike pattern => [("pattern", pattern)]
  | oneOf values => [("values", .tuple values)]
  | isNull | unspecified => []

/-- The condition as a value by itself, with the mark of its origin. -/
def toValue (c : Condition) (mark : Nat) : Value := .entity (.condition c.operator) mark c.members

def IsConcrete : Condition → Prop
  | unspecified => False
  | _ => True

instance (c : Condition) : Decidable c.IsConcrete := by
  cases c <;> simp only [IsConcrete] <;> infer_instance

/-! ## Meaning -/

/-- Do two values, neither of them null, stand in an accepted relation? Truth values compare with
truth values only, and what cannot be ordered is in no relation. -/
def compares (accept : Relation → Bool) (value operand : Value) : Bool :=
  !value.isNull && !operand.isNull && value.isBool == operand.isBool &&
  match value.relate operand with
  | .ok relation => accept relation
  | .error _ => false

/-- Does the text of a value contain the text of a pattern, both seen through a folding? -/
def containsText (fold : List Char → List Char) (value pattern : Value) : Bool :=
  !value.isNull && Text.occursIn (fold pattern.display.toList) (fold value.display.toList)

/-- Does a value, present or not, satisfy the condition? -/
def holds (value : Value) (present : Bool) : Condition → Bool
  | eq operand => present && !value.isNull && value.strictEq operand
  | neq operand =>
    present && !value.isNull && !operand.isNull && !value.strictEq operand
  | gt operand => compares (· == .greater) value operand
  | gte operand => compares (fun r => r == .greater || r == .same) value operand
  | lt operand => compares (· == .less) value operand
  | lte operand => compares (fun r => r == .less || r == .same) value operand
  | like pattern => containsText id value pattern
  | ilike pattern => containsText Text.foldCase value pattern
  | oneOf values => present && !value.isNull && values.any value.strictEq
  | isNull => !present || value.isNull
  | unspecified => false

/-- Can a value be tested? Where texts are compared, both sides have to have one. -/
def tells (value : Value) : Condition → Bool
  | like pattern | ilike pattern => value.isNull || (pattern.isPrintable && value.isPrintable)
  | _ => true

/-- Tests a value, present or not. -/
def test (value : Value) (present : Bool) : Condition → Except Fault Bool
  | unspecified => .error (.misuse .undefined)
  | c => if c.tells value then .ok (c.holds value present) else .error (.misuse .wholeUnwritable)

/-! ## Lowering -/

/-- The name under which a lowering looks up the untestable condition in vain. -/
def unspecifiedName : String := "<class \x27daal.db.filters.FilterCondition\x27>"

/-- The pattern of all texts that contain the text of a value. -/
def patternFor (v : Value) : String :=
  String.ofList (Text.LikePattern.containing v.display.toList)

/-! ## Wire form -/

/-- The condition of an operator with its operand. -/
def ofOperator? (operator : String) (operand : Value) : Option Condition :=
  match operator with
  | "eq" => some (eq operand)
  | "neq" => some (neq operand)
  | "gt" => some (gt operand)
  | "gte" => some (gte operand)
  | "lt" => some (lt operand)
  | "lte" => some (lte operand)
  | "like" => some (like operand)
  | "ilike" => some (ilike operand)
  | _ => none

/-- The condition with an operator and with members, as it stands in a value. -/
def ofMembers (operator : String) (members : Record) : Condition :=
  match operator, members with
  | "is", _ => isNull
  | "in", [(_, .tuple items)] => oneOf items
  | operator, [(_, operand)] => (ofOperator? operator operand).getD unspecified
  | _, _ => unspecified

/-- The condition of an operator with its operand on a column. -/
def ofOperator (column operator : String) (operand : Value) : Except Fault Condition :=
  if operator == "in" then
    match operand.items? with
    | some items => .ok (oneOf items)
    | none => .error (.refused (.listExpected column))
  else
    match ofOperator? operator operand with
    | some c => .ok c
    | none => .error (.refused (.unknownOperator operator column))

/-- The names of fields as a sorted list literal. -/
def sortedNames (fields : Record) : String :=
  (Value.list ((fields.names.mergeSort fun a b => !(b < a)).map Value.text)).literal

/-- Reads the wire form of a condition: null, a list, an object with one operator, a condition that has
been built already, or a value. -/
def ofWire (column : String) : Value → Except Fault Condition
  | .null => .ok isNull
  | .list items => .ok (oneOf items)
  | .tuple items => .ok (oneOf items)
  | .object [(operator, operand)] => ofOperator column operator operand
  | .object fields => .error (.refused (.operatorCount column (sortedNames fields)))
  | .entity (.condition operator) _ members => .ok (ofMembers operator members)
  | v => .ok (eq v)

end Condition

end DataGateway
