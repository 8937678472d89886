import DataGateway.Filter.Condition

/-!
# Filter specifications

A specification gives columns conditions, all of which a record has to satisfy.

* `Filters` is what a request may carry: keys with conditions, or something that is no filter;
* `Filters.parse` reads a specification from it;
* `Spec.accepts` is the reference predicate that every backend has to agree with.
-/

namespace DataGateway

/-- Columns with their conditions, in order. -/
abbrev Spec := List (String × Condition)

namespace Filters

/-- What stands under a column: a condition, or its wire form. -/
inductive Entry
  | built (condition : Condition)
  | wire (value : Value)

end Filters

/-- The filters of a request: entries under keys, which should be columns, or any other value. -/
inductive Filters
  | columns (entries : List (Key × Filters.Entry))
  | other (value : Value)

namespace Filters

def absent : Filters := .other .null

/-- The column that a key names: texts name one, but for the empty text. -/
def columnOf (key : Key) : Except Fault String :=
  match key.value with
  | .text column =>
    if column == "" then .error (.refused (.filterColumn key.value.literal)) else .ok column
  | v => v.refuse .filterColumn

def Entry.condition (column : String) : Entry → Except Fault Condition
  | .built condition => .ok condition
  | .wire value => Condition.ofWire column value

def parseEntries : List (Key × Entry) → Except Fault Spec
  | [] => .ok []
  | (key, entry) :: rest => do
    let column ← columnOf key
    let condition ← entry.condition column
    return (column, condition) :: (← parseEntries rest)

/-- Reads a specification. Everything that counts as false is the empty one. -/
def parse : Filters → Except Fault Spec
  | .columns entries => parseEntries entries
  | .other (.object fields) => parseEntries (fields.map fun (column, v) => (.ofText column, .wire v))
  | .other value =>
    if value.truthy then .error (.refused (.filtersShape value.kindName)) else .ok []

end Filters

namespace Spec

/-- Are all conditions ones that can be tested? -/
def IsConcrete (spec : Spec) : Prop := ∀ entry ∈ spec, entry.2.IsConcrete

def selects (spec : Spec) (record : Record) : Bool :=
  spec.all fun (column, condition) =>
    condition.holds ((Fields.get? record column).getD .null) (Fields.has record column)

/-- Tests a value, which may be no record, against the conditions one after another. -/
def accepts (value : Value) : Spec → Except Fault Bool
  | [] => .ok true
  | (column, condition) :: rest => do
    let present ← value.holds column
    let found ← value.field column
    if ← condition.test found present then accepts value rest else return false

end Spec

end DataGateway
