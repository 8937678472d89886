import DataGateway.Value.Comparison

/-!
# Equality of values

Facts about sameness and equality that hold of values of all kinds.
-/

namespace DataGateway.Value

/-! ## Null -/

/-- Only null is the same thing as null. -/
theorem same_null {value : Value} (some : value.isNull = false) : value.same .null = false := by
  cases value with
  | null => cases some
  | float x => cases x <;> simp [same, plainSame, quantity?, whole?]
  | entity kind mark fields => cases kind <;> simp [same, plainSame, quantity?, whole?]
  | _ => simp [same, plainSame, quantity?, whole?]

theorem strictEq_null {value : Value} (some : value.isNull = false) : value.strictEq .null = false := by
  simp [strictEq, looseEq, same_null some]

/-! ## Texts -/

/-- Only a text is the same thing as a text. -/
theorem same_text_iff {value : Value} {s : String} :
    value.same (.text s) = true ↔ value = .text s := by
  cases value with
  | float x => cases x <;> simp [same, plainSame, quantity?, whole?]
  | entity kind mark fields => cases kind <;> simp [same, plainSame, quantity?, whole?]
  | _ => simp [same, plainSame, quantity?, whole?]

/-- Only a text is equal to a text. -/
theorem looseEq_text_iff {value : Value} {s : String} :
    value.looseEq (.text s) = true ↔ value = .text s := by
  rw [looseEq, Bool.and_eq_true, same_text_iff, and_iff_right_iff_imp]
  rintro rfl
  rfl

theorem looseEq_text (s t : String) : (text s).looseEq (text t) = (s == t) := by
  rw [Bool.eq_iff_iff, looseEq_text_iff, beq_iff_eq, text.injEq]

/-- Whichever of the two comes first. -/
theorem text_looseEq_iff {value : Value} {s : String} :
    (text s).looseEq value = true ↔ value = .text s := by
  cases value with
  | text t => rw [looseEq_text, beq_iff_eq, text.injEq, eq_comm]
  | float x => cases x <;> simp [looseEq, isIndefinite, same, plainSame, quantity?, whole?]
  | entity kind mark fields =>
      cases kind <;> simp [looseEq, isIndefinite, same, plainSame, quantity?, whole?]
  | _ => simp [looseEq, isIndefinite, same, plainSame, quantity?, whole?]

end DataGateway.Value
