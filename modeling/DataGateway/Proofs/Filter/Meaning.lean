import DataGateway.Proofs.Filter.Spec
import DataGateway.Proofs.Value.Comparison

/-!
# What conditions say of cells

A condition says something of the value in its column, or that there is none. Backends say the same
in their own words, so here are those words: equality, order, membership and `LIKE` patterns.

* `holds_eq_iff`, …, `holds_ilike_iff` — what each kind says of a value that is there;
* `Filled` — a column has a value, and the value has a property;
* `filled_iff` — a condition other than the check for null says that its column is filled so.
-/

namespace DataGateway

open Text

namespace Condition

/-! ## Values that are there -/

section Present

variable {value operand : Value} (some : value.isNull = false)

include some

theorem holds_eq_iff : (eq operand).holds value true = true ↔
    operand.isNull = false ∧ value.strictEq operand = true := by
  cases null : operand.isNull with
  | false => simp [holds, some]
  | true =>
      -- nothing that is there is equal to null
      cases operand <;> cases null
      simp [holds, Value.strictEq_null some]

theorem holds_neq_iff : (neq operand).holds value true = true ↔
    operand.isNull = false ∧ value.strictEq operand = false := by
  simp [holds, some]

theorem holds_oneOf_iff {values : List Value} : (oneOf values).holds value true = true ↔
    ∃ item ∈ values, value.strictEq item = true := by
  simp [holds, some]

theorem holds_like_iff : (like operand).holds value true = true ↔
    LikePattern.Matches (patternFor operand).toList value.display.toList := by
  rw [holds, containsText_iff some, patternFor, String.toList_ofList, LikePattern.matches_containing]
  rfl

theorem holds_ilike_iff : (ilike operand).holds value true = true ↔
    LikePattern.Matches (foldCase (patternFor operand).toList) (foldCase value.display.toList) := by
  rw [holds, containsText_iff some, patternFor, String.toList_ofList,
    LikePattern.foldCase_containing, LikePattern.matches_containing]

end Present

/-! ## Null -/

/-- Of null, and of nothing at all, only the check for null holds. -/
theorem holds_of_null {condition : Condition} (asks : condition ≠ .isNull) {value : Value}
    {present : Bool} (null : value.isNull = true) : condition.holds value present = false := by
  cases condition with
  | isNull => exact absurd rfl asks
  | _ => simp [holds, compares, containsText, null]

end Condition

/-! ## Columns -/

/-- Has a record a value in a column, other than null, with a property? -/
def Filled (record : Record) (column : String) (property : Value → Prop) : Prop :=
  ∃ value, Fields.get? record column = some value ∧ value.isNull = false ∧ property value

/-- A condition other than the check for null says that its column is filled. -/
theorem filled_iff {record : Record} {column : String} {property : Value → Prop}
    {condition : Condition} (asks : condition ≠ .isNull)
    (meaning : ∀ value : Value, value.isNull = false →
      (condition.holds value true = true ↔ property value)) :
    Filled record column property ↔
      condition.holds (Spec.cellOf record column) (Fields.has record column) = true := by
  unfold Filled Spec.cellOf Fields.has Fields.get?
  cases found : record.lookup column with
  | none => simp [Condition.holds_of_null asks (rfl : Value.null.isNull = true)]
  | some value =>
      cases null : value.isNull with
      | true => simp [null, Condition.holds_of_null asks null]
      | false => simp [null, meaning value null]

/-- The check for null says that its column has nothing in it but null. -/
theorem holds_isNull_iff {record : Record} {column : String} :
    Condition.isNull.holds (Spec.cellOf record column) (Fields.has record column) = true ↔
      ∀ value, Fields.get? record column = some value → value.isNull = true := by
  unfold Condition.holds Spec.cellOf Fields.has Fields.get?
  cases found : record.lookup column with
  | none => simp
  | some value => simp

end DataGateway
